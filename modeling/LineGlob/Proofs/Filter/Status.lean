/-
What the exit status tells about a run.

A run fails while it reads an input, while it writes its output, or while it passes the
output on, and it is never in doubt which: `Fails` says when each of these happens, and
at most one of them does (`Fails.unique`).  A run that does not fail has selected some
number of lines, so the status is settled by going through these cases.

The kind of a failure enters into it, and what the run was doing does not.  That a closed
pipe ends a run quietly is meant for the output, whose reader has seen all they wanted.
But an error does not tell where it comes from, and so an input that fails in this way
ends a run just as quietly (`exitStatus_eq_zero_of_reading`).
-/
import LineGlob.Proofs.Filter.Run

namespace LineGlob

namespace Filter

/-- What a run may be doing when it fails. -/
inductive Activity where
  | reading
  | writing
  | flushing
deriving DecidableEq, Repr

/-- How a run fails, and while doing what. -/
inductive Fails (f : Filter) (inputs : List Input) (o : Output) : Activity → IoError → Prop
  /-- All that is printed up to the first input that cannot be read to its end is written. -/
  | reading {before later : List Input} {broken : Input} {e : IoError}
      (hinputs : inputs = before ++ broken :: later) (hbefore : ∀ i ∈ before, i.failure = none)
      (hbroken : broken.failure = some e)
      (hroom : o.HasRoom (f.printed (before ++ [broken])).length) : Fails f inputs o .reading e
  /-- The output does not take all that is printed. -/
  | writing {room : Nat} {e : IoError} (hlimit : o.limit = some (room, e))
      (hroom : room < (f.printed inputs).length) : Fails f inputs o .writing e
  /-- All inputs are read and all that is printed is written. -/
  | flushing {e : IoError} (hreadable : ∀ i ∈ inputs, i.failure = none)
      (hroom : o.HasRoom (f.printed inputs).length) (hflush : o.flushFailure = some e) :
      Fails f inputs o .flushing e

variable {f : Filter} {inputs : List Input} {o : Output} {activity : Activity} {e : IoError}

/-! ### The one failure of a run -/

theorem Fails.eq_writing (h : f.Fails inputs o activity e)
    (hroom : ¬ o.HasRoom (f.printed inputs).length) : activity = .writing := by
  cases h with
  | reading hinputs hbefore hbroken hroom' =>
      rw [hinputs, f.printed_append_cons hbefore hbroken] at hroom
      exact absurd hroom' hroom
  | writing _ _ => rfl
  | flushing _ hroom' _ => exact absurd hroom' hroom

theorem Fails.eq_reading (h : f.Fails inputs o activity e)
    (hroom : o.HasRoom (f.printed inputs).length) (hbroken : ¬ ∀ i ∈ inputs, i.failure = none) :
    activity = .reading := by
  cases h with
  | reading _ _ _ _ => rfl
  | writing hlimit hroom' => exact absurd (hroom _ _ hlimit) (Nat.not_le_of_lt hroom')
  | flushing hreadable _ _ => exact absurd hreadable hbroken

theorem Fails.eq_flushing (h : f.Fails inputs o activity e)
    (hroom : o.HasRoom (f.printed inputs).length) (hreadable : ∀ i ∈ inputs, i.failure = none) :
    activity = .flushing := by
  cases h with
  | @reading before later broken _ hinputs _ hbroken _ =>
      have hnone := hreadable broken (by simp [hinputs])
      rw [hnone] at hbroken
      cases hbroken
  | writing hlimit hroom' => exact absurd (hroom _ _ hlimit) (Nat.not_le_of_lt hroom')
  | flushing _ _ _ => rfl

/-- A run that fails ends in the failure. -/
theorem Fails.result_eq (h : f.Fails inputs o activity e) :
    (f.run inputs o).result = .error (.io e) := by
  cases h with
  | reading hinputs hbefore hbroken hroom =>
      rw [← f.printed_append_cons hbefore hbroken, ← hinputs] at hroom
      rw [result_run_of_hasRoom hroom, hinputs, f.conclusion_append_cons hbefore hbroken]
      rfl
  | writing hlimit hroom => exact result_run_of_limit hlimit hroom
  | flushing hreadable hroom hflush =>
      rw [result_run_of_hasRoom hroom, f.conclusion_of_readable hreadable, flushed, hflush]

/-- **A run fails in one way only.** -/
theorem Fails.unique {activity' : Activity} {e' : IoError} (h : f.Fails inputs o activity e)
    (h' : f.Fails inputs o activity' e') : activity = activity' ∧ e = e' := by
  refine ⟨?_, ?_⟩
  · by_cases hroom : o.HasRoom (f.printed inputs).length
    · by_cases hreadable : ∀ i ∈ inputs, i.failure = none
      · rw [h.eq_flushing hroom hreadable, h'.eq_flushing hroom hreadable]
      · rw [h.eq_reading hroom hreadable, h'.eq_reading hroom hreadable]
    · rw [h.eq_writing hroom, h'.eq_writing hroom]
  · have heq := h.result_eq.symm.trans h'.result_eq
    exact Error.io.inj (Except.error.inj heq)

/-- What holds of some failure of a run holds of the one there is. -/
theorem Fails.exists_and_iff (h : f.Fails inputs o activity e) (P : IoError → Prop) :
    (∃ activity e, f.Fails inputs o activity e ∧ P e) ↔ P e := by
  refine ⟨fun hexists => ?_, fun hP => ⟨activity, e, h, hP⟩⟩
  obtain ⟨activity', e', h', hP⟩ := hexists
  rwa [(h.unique h').2]

/-- **A run selects some number of lines or fails.** -/
theorem succeeds_or_fails (f : Filter) (inputs : List Input) (o : Output) :
    (f.run inputs o).result = .ok (f.total inputs) ∨ ∃ activity e, f.Fails inputs o activity e := by
  cases hrefused : (o.write (f.printed inputs)).2 with
  | some e =>
      obtain ⟨room, hlimit, hroom⟩ := Output.write_snd_eq_some_iff.mp hrefused
      exact .inr ⟨.writing, e, .writing hlimit hroom⟩
  | none =>
      have hroom := Output.write_snd_eq_none_iff.mp hrefused
      rcases Input.readable_or_exists_first inputs with
        hreadable | ⟨before, broken, later, e, rfl, hbefore, hbroken⟩
      · cases hflush : o.flushFailure with
        | some e => exact .inr ⟨.flushing, e, .flushing hreadable hroom hflush⟩
        | none =>
            refine .inl ?_
            rw [result_run_of_hasRoom hroom, flushed_of_none hflush,
              f.conclusion_of_readable hreadable, Nat.zero_add]
      · rw [f.printed_append_cons hbefore hbroken] at hroom
        exact .inr ⟨.reading, e, .reading rfl hbefore hbroken hroom⟩

/-! ### The status -/

theorem exitStatus_error (e : IoError) :
    exitStatus (.error (.io e)) = if e.kind = .brokenPipe then 0 else 2 := by
  simp [exitStatus, Error.isBrokenPipe]

/-- **The exit status tells how a run ended**: 0 if it selected a line or ended at a closed pipe,
whoever had closed it, 1 if it selected none, and 2 if it failed in any other way. -/
theorem exitStatus_run (f : Filter) (inputs : List Input) (o : Output) :
    let result := (f.run inputs o).result
    (exitStatus result = 0 ↔
        (∃ n, 0 < n ∧ result = .ok n) ∨
          ∃ activity e, f.Fails inputs o activity e ∧ e.kind = .brokenPipe) ∧
      (exitStatus result = 1 ↔ result = .ok 0) ∧
      (exitStatus result = 2 ↔
        ∃ activity e, f.Fails inputs o activity e ∧ e.kind ≠ .brokenPipe) := by
  intro result
  rcases f.succeeds_or_fails inputs o with hok | ⟨activity, e, hfails⟩
  · have hnone : ∀ activity e, ¬ f.Fails inputs o activity e := by
      intro activity e hfails
      have heq := hok.symm.trans hfails.result_eq
      cases heq
    have hresult : result = .ok (f.total inputs) := hok
    rw [hresult]
    cases f.total inputs with
    | zero => simp [exitStatus, hnone]
    | succ n => simp [exitStatus, hnone]
  · have hresult : result = .error (.io e) := hfails.result_eq
    rw [hresult, exitStatus_error, hfails.exists_and_iff (·.kind = .brokenPipe),
      hfails.exists_and_iff (·.kind ≠ .brokenPipe)]
    by_cases hpipe : e.kind = .brokenPipe
    · simp [hpipe]
    · simp [hpipe]

/-- An input ends at a closed pipe, and nothing is wrong with the output. -/
theorem exitStatus_eq_zero_of_reading :
    let f : Filter := ⟨.ofSource "*" .sensitive, false, false, false⟩
    let inputs : List Input := [⟨.file [97], [120, 10, 121], some ⟨.brokenPipe, "gone"⟩⟩]
    f.Fails inputs .unlimited .reading ⟨.brokenPipe, "gone"⟩ ∧
      (∀ activity e, f.Fails inputs .unlimited activity e → activity = .reading) ∧
        exitStatus (f.run inputs .unlimited).result = 0 := by
  intro f inputs
  have hfails : f.Fails inputs .unlimited .reading ⟨.brokenPipe, "gone"⟩ :=
    @Fails.reading f inputs .unlimited [] [] _ _ rfl (by simp) rfl
      (Output.hasRoom_of_limit_eq_none rfl _)
  refine ⟨hfails, fun activity e h => (h.unique hfails).1, ?_⟩
  rw [hfails.result_eq]
  rfl

end Filter

end LineGlob
