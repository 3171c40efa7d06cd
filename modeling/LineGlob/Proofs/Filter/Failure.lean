/-
What is left when something fails.

A failing output cuts a run off.  What the run prints does not depend on the output, so
the bytes that a limited output has got in the end are the first ones that an output
without a limit would have got, wherever the limit falls: in the name of an input, behind
it, in a line, before its newline, or in a number.  A run that gets to the flush has
printed everything, and if that fails only its result is lost.

A failing input ends a run at its own place.  Everything before it is complete, and of
the input itself the lines that end at a newline count as if the input ended there
(`Lines.complete`).  A number of lines is printed at the end of an input, so none is
printed for this one.  Nothing behind it is looked at.

A failure here is one that stays: what goes away when it is tried again is tried again by
whoever reads or writes.
-/
import LineGlob.Proofs.Filter.Run
import LineGlob.Proofs.Input.Lines

namespace LineGlob

namespace Filter

variable {f : Filter}

/-! ### An output that fails -/

/-- Further inputs change nothing of what is printed before. -/
theorem printed_prefix (f : Filter) (inputs later : List Input) :
    f.printed inputs <+: f.printed (inputs ++ later) := by
  obtain ⟨more, hmore⟩ := Input.reached_prefix inputs later
  unfold printed
  rw [← hmore, List.flatMap_append]
  exact List.prefix_append _ _

/-- A run that prints more than the output takes is cut off there, whatever inputs come later. -/
theorem run_limited_of_lt {inputs : List Input} {n : Nat} (h : n < (f.printed inputs).length)
    (later : List Input) (e : IoError) :
    (f.run (inputs ++ later) (.limited n e)).output.written.toList = (f.printed inputs).take n ∧
      (f.run (inputs ++ later) (.limited n e)).result = .error (.io e) := by
  obtain ⟨more, hmore⟩ := f.printed_prefix inputs later
  refine ⟨?_, ?_⟩
  · rw [written_run, ← hmore]
    exact List.take_append_of_le_length (Nat.le_of_lt h)
  · have hlength : n < (f.printed (inputs ++ later)).length := by
      rw [← hmore, List.length_append]
      omega
    exact result_run_of_limit (o := .limited n e) rfl hlength

/-- A run that prints no more than the output takes does not notice the limit. -/
theorem run_limited_of_le {inputs : List Input} {n : Nat} (h : (f.printed inputs).length ≤ n)
    (e : IoError) :
    (f.run inputs (.limited n e)).output.written.toList = f.printed inputs ∧
      (f.run inputs (.limited n e)).result = f.conclusion 0 inputs := by
  refine ⟨?_, ?_⟩
  · rw [written_run]
    exact List.take_of_length_le h
  · rw [result_run_of_hasRoom (Output.hasRoom_limited.mpr h)]
    exact flushed_of_none rfl _

/-- A run whose output cannot be passed on has written all of it. -/
theorem run_unflushable (f : Filter) (inputs : List Input) (e : IoError) :
    (f.run inputs (.unflushable e)).output.written.toList = f.printed inputs ∧
      (f.run inputs (.unflushable e)).result =
        flushed (.unflushable e) (f.conclusion 0 inputs) := by
  refine ⟨?_, ?_⟩
  · rw [written_run]
    rfl
  · exact result_run_of_hasRoom (Output.hasRoom_of_limit_eq_none rfl _)

/-- A run fails by itself only if an input cannot be read to its end. -/
theorem exists_failure_of_conclusion {before : Nat} {inputs : List Input} {x : Error}
    (h : f.conclusion before inputs = .error x) :
    ∃ i ∈ inputs, ∃ e, i.failure = some e ∧ x = .io e := by
  unfold conclusion at h
  split at h
  · next e he =>
      obtain ⟨i, hi, hfailure⟩ := List.exists_of_findSome?_eq_some he
      exact ⟨i, hi, e, hfailure, (Except.error.inj h).symm⟩
  · simp at h

/-- **An output that fails leaves exactly a prefix.**  An output that takes `n` bytes has got the
first `n` of those that are printed, whatever inputs come later, and the run fails as the output
does; if there are no more than `n` nothing is different.  An output that cannot pass on what it
took has got all of them, and the run fails for that reason unless an input failed before. -/
theorem run_limited (f : Filter) (inputs later : List Input) (n : Nat) (e : IoError) :
    let whole := f.run inputs .unlimited
    let bytes := whole.output.written.toList
    (if n < bytes.length then
        (f.run (inputs ++ later) (.limited n e)).output.written.toList = bytes.take n ∧
          (f.run (inputs ++ later) (.limited n e)).result = .error (.io e)
      else
        (f.run inputs (.limited n e)).output.written.toList = bytes ∧
          (f.run inputs (.limited n e)).result = whole.result) ∧
      (f.run inputs (.unflushable e)).output.written.toList = bytes ∧
      (f.run inputs (.unflushable e)).result =
        (match whole.result with
          | .ok _ => .error (.io e)
          | .error x => .error x) ∧
      ∀ x, whole.result = .error x → ∃ i ∈ inputs, ∃ e', i.failure = some e' ∧ x = .io e' := by
  dsimp only
  rw [written_run_unlimited, result_run_unlimited]
  obtain ⟨hwritten, hresult⟩ := f.run_unflushable inputs e
  refine ⟨?_, hwritten, ?_, fun x => exists_failure_of_conclusion⟩
  · split
    · next hlt => exact run_limited_of_lt hlt later e
    · next hle => exact run_limited_of_le (Nat.le_of_not_lt hle) e
  · rw [hresult]
    cases f.conclusion 0 inputs with
    | ok n => rfl
    | error x => rfl

/-! ### An input that fails -/

theorem lines_of_failure {input : Input} {e : IoError} (h : input.failure = some e) :
    input.lines = Input.lines ⟨input.reference, Lines.complete input.data, none⟩ := by
  unfold Input.lines
  rw [h]
  exact (Lines.ofBytes_complete input.data).symm

/-- An input that fails shows no number, and its complete lines. -/
theorem shown_of_failure {input : Input} {e : IoError} (h : input.failure = some e) :
    f.shown input =
      if f.count then []
      else f.shown ⟨input.reference, Lines.complete input.data, none⟩ := by
  unfold shown listing countLine selected
  rw [lines_of_failure h, h]
  split
  · rfl
  · rfl

/-- **An input that fails loses only what was not complete.**  The run fails as that input does.
What it has printed is what it would have printed had the input ended with its last newline, or,
where lines are counted, had there been only the inputs before it; and nothing has been noted of
that input or a later one. -/
theorem run_of_failure (f : Filter) (before later : List Input) (broken : Input) (e : IoError)
    (hbefore : ∀ i ∈ before, i.failure = none) (hbroken : broken.failure = some e) :
    let outcome := f.run (before ++ broken :: later) .unlimited
    let ended : Input := ⟨broken.reference, Lines.complete broken.data, none⟩
    outcome.result = .error (.io e) ∧
      outcome.output.written.toList =
        (if f.count then (f.run before .unlimited).output.written.toList
          else (f.run (before ++ [ended]) .unlimited).output.written.toList) ∧
      outcome.notes = (f.run before .unlimited).notes := by
  intro outcome ended
  have hended : f.printed [ended] = f.shown ended := by
    unfold printed
    rw [Input.reached_of_readable (by simp [ended]), List.flatMap_singleton]
  have hnoted : f.noted broken = [] := by
    rw [noted, hbroken]
    rfl
  refine ⟨(result_run_unlimited f _).trans (f.conclusion_append_cons hbefore hbroken 0 later),
    ?_, ?_⟩
  · rw [written_run_unlimited, written_run_unlimited, written_run_unlimited,
      f.printed_append hbefore, f.printed_append hbefore, hended, f.printed_cons_of_failure hbroken,
      shown_of_failure hbroken]
    split
    · exact List.append_nil _
    · rfl
  · rw [notes_run_unlimited, notes_run_unlimited, Input.reached_append hbefore,
      Input.reached_cons_of_failure hbroken, Input.reached_of_readable hbefore,
      List.flatMap_append, List.flatMap_singleton, hnoted, List.append_nil]

/-- The failing input is the second of three, and has an unfinished line. -/
theorem run_of_failure_between :
    let f : Filter := ⟨.ofSource "*" .sensitive, false, false, true⟩
    let e : IoError := .ofKind .timedOut
    let before : List Input := [⟨.file [97], [120, 10], none⟩]
    let broken : Input := ⟨.file [98], [121, 10, 122], some e⟩
    let later : List Input := [⟨.file [99], [119, 10], none⟩]
    (∀ i ∈ before, i.failure = none) ∧ broken.failure = some e ∧
      (f.run (before ++ broken :: later) .unlimited).result = .error (.io e) ∧
        (f.run (before ++ broken :: later) .unlimited).output.written.toList =
          [97, 58, 120, 10, 98, 58, 121, 10] := by
  intro f e before broken later
  have hbefore : ∀ i ∈ before, i.failure = none := by decide
  have hbroken : broken.failure = some e := rfl
  obtain ⟨hresult, hwritten, -⟩ := run_of_failure f before later broken e hbefore hbroken
  refine ⟨hbefore, hbroken, hresult, hwritten.trans ?_⟩
  decide +kernel

end Filter

end LineGlob
