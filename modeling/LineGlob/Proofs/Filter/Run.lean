/-
What a run emits.

The steps of a run follow one another, so what they emit is put together by
`Emits.bind`, one function after the other: the lines of an input, the input with its
number of lines and its note, all inputs up to the first that cannot be read to its end.

A run adds the flush to this, and with it everything about the run is known
(`run_of_taken`, `run_of_refused`): the output decides where it is cut off and whether it
can be passed on, and nothing else.
-/
import LineGlob.Proofs.Filter.Emission

namespace LineGlob

/-! ### The inputs that a run gets to -/

/-- The inputs up to the first that cannot be read to its end, with that one. -/
def Input.reached : List Input → List Input
  | [] => []
  | input :: inputs => if input.failure.isSome then [input] else input :: reached inputs

theorem Input.reached_of_readable {inputs : List Input} (h : ∀ i ∈ inputs, i.failure = none) :
    reached inputs = inputs := by
  induction inputs with
  | nil => rfl
  | cons input inputs ih =>
      obtain ⟨hinput, hinputs⟩ := List.forall_mem_cons.mp h
      rw [reached, hinput, ih hinputs]
      rfl

theorem Input.reached_append {before : List Input} (h : ∀ i ∈ before, i.failure = none)
    (inputs : List Input) : reached (before ++ inputs) = before ++ reached inputs := by
  induction before with
  | nil => rfl
  | cons input before ih =>
      obtain ⟨hinput, hbefore⟩ := List.forall_mem_cons.mp h
      rw [List.cons_append, reached, hinput, ih hbefore]
      rfl

theorem Input.reached_cons_of_failure {input : Input} {e : IoError} (h : input.failure = some e)
    (inputs : List Input) : reached (input :: inputs) = [input] := by
  rw [reached, h]
  rfl

/-- Either all inputs can be read to their ends, or there is a first that cannot. -/
theorem Input.readable_or_exists_first (inputs : List Input) :
    (∀ i ∈ inputs, i.failure = none) ∨
      ∃ before broken later e, inputs = before ++ broken :: later ∧
        (∀ i ∈ before, i.failure = none) ∧ broken.failure = some e := by
  induction inputs with
  | nil => exact .inl (by simp)
  | cons input inputs ih =>
      cases hinput : input.failure with
      | some e => exact .inr ⟨[], input, inputs, e, rfl, by simp, hinput⟩
      | none =>
          rcases ih with hreadable | ⟨before, broken, later, e, rfl, hbefore, hbroken⟩
          · exact .inl (List.forall_mem_cons.mpr ⟨hinput, hreadable⟩)
          · exact .inr ⟨input :: before, broken, later, e, rfl,
              List.forall_mem_cons.mpr ⟨hinput, hbefore⟩, hbroken⟩

/-- Further inputs come behind those that a run gets to anyhow. -/
theorem Input.reached_prefix (inputs later : List Input) :
    reached inputs <+: reached (inputs ++ later) := by
  induction inputs with
  | nil => exact List.nil_prefix
  | cons input inputs ih =>
      rw [List.cons_append, reached, reached]
      split
      · exact List.prefix_rfl
      · exact (List.prefix_cons_inj input).mpr ih

namespace Filter

variable (f : Filter)

/-! ### One input -/

/-- The lines of an input that are selected. -/
def selected (input : Input) : List Bytes :=
  input.lines.filter f.selects

/-- What is printed for one line: the name of its input if asked for, the line, and a newline. -/
def render (input : Reference) (line : Bytes) : Bytes :=
  (if f.withFilename then Text.encode input.displayName ++ Text.encode [':'] else []) ++ line ++
    [Lines.newline]

/-- What the lines of an input add to the output. -/
def listing (input : Input) : Bytes :=
  if f.count then [] else (f.selected input).flatMap (f.render input.reference)

/-- What the end of an input adds to the output. -/
def countLine (input : Input) : Bytes :=
  if f.count then
    f.render input.reference (Text.encode (Nat.toDigits 10 (f.selected input).length))
  else []

/-- What an input adds to the output. -/
def shown (input : Input) : Bytes :=
  f.listing input ++ if input.failure.isSome then [] else f.countLine input

/-- What an input adds to the notes. -/
def noted (input : Input) : List Note :=
  if input.failure.isSome then [] else [.selected input.reference (f.selected input).length]

/-- What filtering an input ends in. -/
def verdict (input : Input) : Except Error Nat :=
  match input.failure with
  | some e => .error (.io e)
  | none => .ok (f.selected input).length

/-- A line is emitted piece by piece. -/
theorem emits_printLine (input : Reference) (line : Bytes) :
    Emits (f.printLine input line) (f.render input line) [] (.ok ()) := by
  have hline : Emits (do write line; write [Lines.newline]) (line ++ [Lines.newline]) []
      (.ok ()) := (emits_write line).seq (emits_write _)
  unfold printLine render
  rw [List.append_assoc]
  by_cases hname : f.withFilename
  · rw [if_pos hname, if_pos hname, List.append_assoc]
    exact (emits_write _).seq ((emits_write _).seq hline)
  · rw [if_neg hname, if_neg hname]
    exact hline

/-- **Lines emit those of them that are selected**, unless these are only counted. -/
theorem emits_printLines (input : Reference) (lines : List Bytes) (selected : Nat) :
    Emits (f.printLines input selected lines)
      (if f.count then [] else (lines.filter f.selects).flatMap (f.render input)) []
      (.ok (selected + (lines.filter f.selects).length)) := by
  induction lines generalizing selected with
  | nil =>
      rw [printLines]
      simpa using emits_pure selected
  | cons line lines ih =>
      rw [printLines]
      by_cases hline : f.selects line
      · have hlength : selected + ((lines.filter f.selects).length + 1) =
            selected + 1 + (lines.filter f.selects).length := by omega
        rw [if_pos hline, List.filter_cons_of_pos hline, List.length_cons, hlength]
        have hrest := ih (selected + 1)
        by_cases hcount : f.count
        · rw [if_pos hcount] at hrest ⊢
          rw [if_neg (by simp [hcount])]
          exact hrest
        · rw [if_neg hcount] at hrest ⊢
          rw [if_pos (by simp [hcount]), List.flatMap_cons]
          exact (f.emits_printLine input line).seq hrest
      · rw [if_neg hline, List.filter_cons_of_neg hline]
        exact ih selected

/-- **An input emits its lines, and the number of them if it can be read to its end.** -/
theorem emits_filterInput (input : Input) :
    Emits (f.filterInput input) (f.shown input) (f.noted input) (f.verdict input) := by
  have hlines := f.emits_printLines input.reference input.lines 0
  rw [Nat.zero_add] at hlines
  unfold filterInput shown noted verdict
  cases hfailure : input.failure with
  | some e => exact hlines.bind (emits_throw (.io e))
  | none =>
      refine hlines.bind ?_
      have hend : Emits (do note (.selected input.reference (f.selected input).length)
                            return (f.selected input).length)
          [] [.selected input.reference (f.selected input).length]
          (.ok (f.selected input).length) :=
        (emits_note _).seq (emits_pure _)
      unfold countLine
      by_cases hcount : f.count
      · have hcounted := (f.emits_printLine input.reference
          (Text.encode (Nat.toDigits 10 (f.selected input).length))).seq hend
        rw [List.append_nil] at hcounted
        simp only [hcount]
        exact hcounted
      · simp only [hcount]
        exact hend

/-! ### All inputs -/

/-- The number of lines that are selected in some inputs. -/
def total (inputs : List Input) : Nat :=
  (inputs.flatMap f.selected).length

/-- What filtering inputs one after the other ends in, so many lines having been selected before. -/
def conclusion (before : Nat) (inputs : List Input) : Except Error Nat :=
  match inputs.findSome? Input.failure with
  | some e => .error (.io e)
  | none => .ok (before + f.total inputs)

/-- Inputs that can be read to their ends add their lines to the number. -/
theorem conclusion_append {readable : List Input} (h : ∀ i ∈ readable, i.failure = none)
    (before : Nat) (inputs : List Input) :
    f.conclusion before (readable ++ inputs) =
      f.conclusion (before + f.total readable) inputs := by
  unfold conclusion total
  rw [List.findSome?_append, List.findSome?_eq_none_iff.mpr h, Option.none_or,
    List.flatMap_append, List.length_append, Nat.add_assoc]

theorem conclusion_cons_of_failure {input : Input} {e : IoError} (h : input.failure = some e)
    (before : Nat) (inputs : List Input) :
    f.conclusion before (input :: inputs) = .error (.io e) := by
  unfold conclusion
  rw [List.findSome?_cons, h]

theorem conclusion_cons_of_readable {input : Input} (h : input.failure = none) (before : Nat)
    (inputs : List Input) :
    f.conclusion before (input :: inputs) =
      f.conclusion (before + (f.selected input).length) inputs := by
  have hone := f.conclusion_append (List.forall_mem_singleton.mpr h) before inputs
  rwa [total, List.flatMap_singleton] at hone

theorem conclusion_of_readable {inputs : List Input} (h : ∀ i ∈ inputs, i.failure = none)
    (before : Nat) : f.conclusion before inputs = .ok (before + f.total inputs) := by
  unfold conclusion
  rw [List.findSome?_eq_none_iff.mpr h]

theorem conclusion_append_cons {readable : List Input} (h : ∀ i ∈ readable, i.failure = none)
    {input : Input} {e : IoError} (hinput : input.failure = some e) (before : Nat)
    (inputs : List Input) :
    f.conclusion before (readable ++ input :: inputs) = .error (.io e) := by
  rw [f.conclusion_append h, f.conclusion_cons_of_failure hinput]

/-- **Inputs emit what each of them emits, up to the first that cannot be read to its end.** -/
theorem emits_filterAll (inputs : List Input) (before : Nat) :
    Emits (f.filterAll before inputs) ((Input.reached inputs).flatMap f.shown)
      ((Input.reached inputs).flatMap f.noted) (f.conclusion before inputs) := by
  induction inputs generalizing before with
  | nil => exact emits_pure before
  | cons input inputs ih =>
      have hinput := f.emits_filterInput input
      unfold verdict at hinput
      rw [filterAll]
      cases hfailure : input.failure with
      | some e =>
          rw [hfailure] at hinput
          rw [Input.reached_cons_of_failure hfailure, List.flatMap_singleton,
            List.flatMap_singleton, f.conclusion_cons_of_failure hfailure]
          exact hinput.bind_error _
      | none =>
          rw [hfailure] at hinput
          rw [Input.reached, if_neg (by simp [hfailure]), List.flatMap_cons, List.flatMap_cons,
            f.conclusion_cons_of_readable hfailure]
          exact hinput.bind (ih _)

/-! ### The whole run -/

/-- What a run prints on an output that takes everything. -/
def printed (inputs : List Input) : Bytes :=
  (Input.reached inputs).flatMap f.shown

/-- Inputs that can be read to their ends show what they show, and then the others follow. -/
theorem printed_append {before : List Input} (h : ∀ i ∈ before, i.failure = none)
    (inputs : List Input) : f.printed (before ++ inputs) = f.printed before ++ f.printed inputs := by
  unfold printed
  rw [Input.reached_append h, Input.reached_of_readable h, List.flatMap_append]

theorem printed_cons_of_failure {input : Input} {e : IoError} (h : input.failure = some e)
    (inputs : List Input) : f.printed (input :: inputs) = f.shown input := by
  unfold printed
  rw [Input.reached_cons_of_failure h, List.flatMap_singleton]

theorem printed_singleton (input : Input) : f.printed [input] = f.shown input := by
  unfold printed
  cases hfailure : input.failure with
  | none =>
      rw [Input.reached_of_readable (List.forall_mem_singleton.mpr hfailure),
        List.flatMap_singleton]
  | some e => rw [Input.reached_cons_of_failure hfailure, List.flatMap_singleton]

theorem printed_cons_of_readable {input : Input} (h : input.failure = none) (inputs : List Input) :
    f.printed (input :: inputs) = f.shown input ++ f.printed inputs := by
  rw [← List.singleton_append, f.printed_append (List.forall_mem_singleton.mpr h),
    f.printed_singleton]

/-- What comes behind an input that fails is not printed. -/
theorem printed_append_cons {before : List Input} (h : ∀ i ∈ before, i.failure = none)
    {input : Input} {e : IoError} (hinput : input.failure = some e) (inputs : List Input) :
    f.printed (before ++ input :: inputs) = f.printed (before ++ [input]) := by
  rw [f.printed_append h, f.printed_append h, f.printed_cons_of_failure hinput,
    f.printed_cons_of_failure hinput]

/-- What a run ends in whose output has been written: to pass it on is the last step, which is not
taken after a failure. -/
def flushed (o : Output) : Except Error Nat → Except Error Nat
  | .ok n =>
    match o.flushFailure with
    | none => .ok n
    | some e => .error (.io e)
  | .error e => .error e

theorem flushed_of_none {o : Output} (h : o.flushFailure = none) (result : Except Error Nat) :
    flushed o result = result := by
  unfold flushed
  rw [h]
  cases result with
  | ok n => rfl
  | error e => rfl

theorem flush_of_none {p : Progress} (h : p.output.flushFailure = none) : flush p = .ok () p := by
  unfold flush
  rw [h]

theorem flush_of_some {p : Progress} {e : IoError} (h : p.output.flushFailure = some e) :
    flush p = .error (.io e) p := by
  unfold flush
  rw [h]

/-- **A run whose output takes everything** writes all of it, and then only the flush can fail. -/
theorem run_of_taken {inputs : List Input} {o output : Output}
    (h : o.write (f.printed inputs) = (output, none)) :
    f.run inputs o =
      ⟨flushed o (f.conclusion 0 inputs), output, (Input.reached inputs).flatMap f.noted⟩ := by
  have hsame : o.flushFailure = output.flushFailure := by
    rw [← o.flushFailure_write (f.printed inputs), h]
  have hall := (f.emits_filterAll inputs 0).taken (p := ⟨o, []⟩) h
  rw [List.append_nil] at hall
  unfold run
  dsimp only [EStateM.run]
  cases hconclusion : f.conclusion 0 inputs with
  | error e =>
      rw [hconclusion] at hall
      rw [bind_of_error hall]
      simp [flushed]
  | ok n =>
      rw [hconclusion] at hall
      rw [bind_of_ok hall]
      cases hflush : output.flushFailure with
      | none =>
          rw [bind_of_ok (flush_of_none hflush), flushed, hsame, hflush]
          simp [pure, EStateM.pure]
      | some e =>
          rw [bind_of_error (flush_of_some hflush), flushed, hsame, hflush]
          simp

/-- **A run whose output refuses a byte** has written all bytes before it, and ends there. -/
theorem run_of_refused {inputs : List Input} {o output : Output} {e : IoError}
    (h : o.write (f.printed inputs) = (output, some e)) :
    (f.run inputs o).result = .error (.io e) ∧ (f.run inputs o).output = output := by
  obtain ⟨noted, hall⟩ := (f.emits_filterAll inputs 0).refused (p := ⟨o, []⟩) h
  unfold run
  dsimp only [EStateM.run]
  rw [bind_of_error hall]
  exact ⟨rfl, rfl⟩

variable {f} {inputs : List Input} {o : Output}

/-- **A run leaves its output as if all that it prints were written at once.** -/
theorem output_run (f : Filter) (inputs : List Input) (o : Output) :
    (f.run inputs o).output = (o.write (f.printed inputs)).1 := by
  rcases hwrite : o.write (f.printed inputs) with ⟨output, _ | e⟩
  · rw [f.run_of_taken hwrite]
  · exact (f.run_of_refused hwrite).2

theorem written_run (f : Filter) (inputs : List Input) (o : Output) :
    (f.run inputs o).output.written.toList = o.written.toList ++ o.part (f.printed inputs) := by
  rw [output_run, Output.written_write]

theorem result_run_of_hasRoom (h : o.HasRoom (f.printed inputs).length) :
    (f.run inputs o).result = flushed o (f.conclusion 0 inputs) := by
  rw [f.run_of_taken (Prod.ext rfl (Output.write_snd_eq_none_iff.mpr h))]

theorem result_run_of_limit {room : Nat} {e : IoError} (hlimit : o.limit = some (room, e))
    (hroom : room < (f.printed inputs).length) : (f.run inputs o).result = .error (.io e) :=
  (f.run_of_refused
    (Prod.ext rfl (Output.write_snd_eq_some_iff.mpr ⟨room, hlimit, hroom⟩))).1

/-! ### A run on an output that takes everything -/

theorem written_run_unlimited (f : Filter) (inputs : List Input) :
    (f.run inputs .unlimited).output.written.toList = f.printed inputs := by
  rw [written_run]
  rfl

theorem result_run_unlimited (f : Filter) (inputs : List Input) :
    (f.run inputs .unlimited).result = f.conclusion 0 inputs := by
  rw [f.run_of_taken (o := .unlimited) rfl]
  exact flushed_of_none (o := .unlimited) rfl _

theorem notes_run_unlimited (f : Filter) (inputs : List Input) :
    (f.run inputs .unlimited).notes = (Input.reached inputs).flatMap f.noted := by
  rw [f.run_of_taken (o := .unlimited) rfl]

end Filter

end LineGlob
