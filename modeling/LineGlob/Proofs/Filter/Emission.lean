/-
What the steps of a run put out.

A step may write at several places, and an output may refuse at any byte of any of them.
Nothing of what a step would write depends on the output, though, and a step that is
refused stops there.  So a step is told by what it does on an output that takes
everything: the bytes it writes in all, the notes it leaves, and what it ends in.
`Emits` says that a step does so, and that on any other output it differs from this only
by being cut off at the byte that is refused.

The one thing to know about outputs is that writing in two goes is writing at once
(`Output.write_append`).  Where a step divides its bytes therefore never matters, and
steps in a row emit what each of them emits, in that order.
-/
import LineGlob.Filter.Basic

namespace LineGlob

namespace Output

/-! ### Writing -/

/-- An output has room for so many bytes. -/
def HasRoom (o : Output) (count : Nat) : Prop :=
  ∀ room failure, o.limit = some (room, failure) → count ≤ room

theorem hasRoom_limited {room count : Nat} {failure : IoError} :
    (limited room failure).HasRoom count ↔ count ≤ room := by
  refine ⟨fun h => h room failure rfl, fun h room' failure' heq => ?_⟩
  cases heq
  exact h

theorem hasRoom_of_limit_eq_none {o : Output} (h : o.limit = none) (count : Nat) :
    o.HasRoom count := by
  intro room failure hlimit
  rw [h] at hlimit
  cases hlimit

/-- As many of some bytes as an output has room for. -/
def part (o : Output) (bytes : Bytes) : Bytes :=
  match o.limit with
  | none => bytes
  | some (room, _) => bytes.take room

@[simp] theorem write_nil (o : Output) : o.write [] = (o, none) := by
  obtain ⟨written, limit, flushFailure⟩ := o
  cases limit with
  | none => simp [write]
  | some l => simp [write]

theorem written_append (written : Array UInt8) (bytes more : Bytes) :
    written ++ (bytes ++ more) = written ++ bytes ++ more := by
  apply Array.ext'
  simp only [Array.toList_appendList, List.append_assoc]

/-- **Writing in two goes is writing at once.** -/
theorem write_append (o : Output) (bytes more : Bytes) :
    o.write (bytes ++ more) =
      match o.write bytes with
      | (o', none) => o'.write more
      | (o', some e) => (o', some e) := by
  obtain ⟨written, limit, flushFailure⟩ := o
  cases limit with
  | none => simp [write, written_append]
  | some l =>
      obtain ⟨room, failure⟩ := l
      by_cases hbytes : bytes.length ≤ room
      · by_cases hmore : more.length ≤ room - bytes.length
        · have hall : bytes.length + more.length ≤ room := by omega
          simp [write, hbytes, hmore, hall, Nat.sub_sub, written_append]
        · have hall : ¬ bytes.length + more.length ≤ room := by omega
          simp [write, hbytes, hmore, hall, List.take_append, List.take_of_length_le hbytes,
            written_append]
      · have hall : ¬ bytes.length + more.length ≤ room := by omega
        have hroom : room - bytes.length = 0 := by omega
        simp [write, hbytes, hall, List.take_append, hroom]

theorem written_write (o : Output) (bytes : Bytes) :
    (o.write bytes).1.written.toList = o.written.toList ++ o.part bytes := by
  obtain ⟨written, limit, flushFailure⟩ := o
  cases limit with
  | none => simp [write, part]
  | some l =>
      by_cases hbytes : bytes.length ≤ l.1
      · simp [write, part, hbytes, List.take_of_length_le hbytes]
      · simp [write, part, hbytes]

@[simp] theorem flushFailure_write (o : Output) (bytes : Bytes) :
    (o.write bytes).1.flushFailure = o.flushFailure := by
  unfold write
  split
  · rfl
  · split
    · rfl
    · rfl

/-- An output refuses bytes exactly if it has no room for them. -/
theorem write_snd_eq_some_iff {o : Output} {bytes : Bytes} {e : IoError} :
    (o.write bytes).2 = some e ↔ ∃ room, o.limit = some (room, e) ∧ room < bytes.length := by
  obtain ⟨written, limit, flushFailure⟩ := o
  cases limit with
  | none => simp [write]
  | some l =>
      obtain ⟨room, failure⟩ := l
      by_cases hbytes : bytes.length ≤ room
      · simp [write, hbytes]
      · simp only [write, hbytes, ↓reduceIte, Option.some.injEq, Prod.mk.injEq]
        exact ⟨fun h => ⟨room, ⟨rfl, h⟩, Nat.lt_of_not_le hbytes⟩, fun ⟨_, h, _⟩ => h.2⟩

theorem write_snd_eq_none_iff {o : Output} {bytes : Bytes} :
    (o.write bytes).2 = none ↔ o.HasRoom bytes.length := by
  rw [Option.eq_none_iff_forall_ne_some]
  refine ⟨fun h room e hlimit => Nat.le_of_not_lt fun hroom => ?_, fun h e he => ?_⟩
  · exact h e (write_snd_eq_some_iff.mpr ⟨room, hlimit, hroom⟩)
  · obtain ⟨room, hlimit, hroom⟩ := write_snd_eq_some_iff.mp he
    exact absurd (h room e hlimit) (Nat.not_le_of_lt hroom)

end Output

namespace Filter

variable {α β : Type}

/-! ### Steps in a row -/

/-- How a step ends that comes to a result. -/
def ending (result : Except Error α) (p : Progress) : EStateM.Result Error Progress α :=
  match result with
  | .ok a => .ok a p
  | .error e => .error e p

/-- What a step emits: on an output that takes all of `bytes` it writes them, adds `notes`, and ends
in `result`; any other output it gives these bytes too, as many as fit, and fails as the output
does. -/
structure Emits (step : Step α) (bytes : Bytes) (notes : List Note) (result : Except Error α) :
    Prop where
  taken : ∀ {p output}, p.output.write bytes = (output, none) →
    step p = ending result ⟨output, notes.reverse ++ p.notes⟩
  refused : ∀ {p output e}, p.output.write bytes = (output, some e) →
    ∃ noted, step p = .error (.io e) ⟨output, noted⟩

theorem bind_of_ok {step : Step α} {next : α → Step β} {p p' : Progress} {a : α}
    (h : step p = .ok a p') : (step >>= next) p = next a p' := by
  show EStateM.bind step next p = next a p'
  rw [EStateM.bind, h]

theorem bind_of_error {step : Step α} {next : α → Step β} {p p' : Progress} {e : Error}
    (h : step p = .error e p') : (step >>= next) p = .error e p' := by
  show EStateM.bind step next p = .error e p'
  rw [EStateM.bind, h]

/-- A step that writes nothing takes no notice of the output. -/
theorem emits_of_unwritten {step : Step α} {notes : List Note} {result : Except Error α}
    (h : ∀ p, step p = ending result ⟨p.output, notes.reverse ++ p.notes⟩) :
    Emits step [] notes result where
  taken {p output} hw := by
    rw [Output.write_nil, Prod.mk.injEq] at hw
    rw [h, hw.1]
  refused {p output e} hw := by
    rw [Output.write_nil, Prod.mk.injEq] at hw
    simp at hw

theorem emits_pure (a : α) : Emits (pure a) [] [] (.ok a) :=
  emits_of_unwritten fun _ => rfl

theorem emits_throw (e : Error) : Emits (throw e : Step α) [] [] (.error e) :=
  emits_of_unwritten fun _ => rfl

theorem emits_note (n : Note) : Emits (note n) [] [n] (.ok ()) :=
  emits_of_unwritten fun _ => rfl

theorem write_of_taken {p : Progress} {bytes : Bytes} {output : Output}
    (h : p.output.write bytes = (output, none)) : write bytes p = .ok () { p with output } := by
  unfold write
  rw [h]

theorem write_of_refused {p : Progress} {bytes : Bytes} {output : Output} {e : IoError}
    (h : p.output.write bytes = (output, some e)) :
    write bytes p = .error (.io e) { p with output } := by
  unfold write
  rw [h]

theorem emits_write (bytes : Bytes) : Emits (write bytes) bytes [] (.ok ()) where
  taken h := write_of_taken h
  refused h := ⟨_, write_of_refused h⟩

/-- **Steps in a row emit what each of them emits.** -/
theorem Emits.bind {step : Step α} {next : α → Step β} {bytes more : Bytes}
    {notes later : List Note} {a : α} {result : Except Error β}
    (h : Emits step bytes notes (.ok a)) (hnext : Emits (next a) more later result) :
    Emits (step >>= next) (bytes ++ more) (notes ++ later) result where
  taken {p output} hw := by
    rw [Output.write_append] at hw
    split at hw
    · next output' hbytes =>
        rw [bind_of_ok (h.taken hbytes), hnext.taken hw, List.reverse_append, List.append_assoc]
    · simp at hw
  refused {p output e} hw := by
    rw [Output.write_append] at hw
    split at hw
    · next output' hbytes =>
        rw [bind_of_ok (h.taken hbytes)]
        exact hnext.refused hw
    · next output' e' hbytes =>
        obtain ⟨rfl, he⟩ := Prod.mk.inj hw
        obtain rfl := Option.some.inj he
        obtain ⟨noted, hstep⟩ := h.refused hbytes
        exact ⟨noted, bind_of_error hstep⟩

theorem Emits.seq {step : Step Unit} {next : Step β} {bytes more : Bytes}
    {notes later : List Note} {result : Except Error β} (h : Emits step bytes notes (.ok ()))
    (hnext : Emits next more later result) :
    Emits (step >>= fun _ => next) (bytes ++ more) (notes ++ later) result :=
  h.bind hnext

/-- A step that fails is the last one. -/
theorem Emits.bind_error {step : Step α} {bytes : Bytes} {notes : List Note} {e : Error}
    (h : Emits step bytes notes (.error e)) (next : α → Step β) :
    Emits (step >>= next) bytes notes (.error e) where
  taken hw := bind_of_error (h.taken hw)
  refused hw := by
    obtain ⟨noted, hstep⟩ := h.refused hw
    exact ⟨noted, bind_of_error hstep⟩

end Filter

end LineGlob
