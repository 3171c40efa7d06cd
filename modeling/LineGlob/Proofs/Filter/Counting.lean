/-
Numbers of lines in place of lines.

To count is to do the same and print less.  Which lines are selected does not depend on
it, and so a run that counts ends as the run that prints does, at the same input if one
cannot be read to its end.

What it prints are numbers, one for each input that has been read to its end, and each is
the number of lines that the printing run has printed for that input.  A name may hold a
newline, so the lines are not told by newlines alone: `Listed` says how many lines some
bytes are when each has a label before it, and they are never so many and so many others
(`Listed.unique`).
-/
import LineGlob.Proofs.Filter.Selection
import LineGlob.Proofs.Input.Join
import Mathlib.Algebra.GroupWithZero.Nat

namespace LineGlob

/-! ### Inputs read to their ends -/

/-- The inputs before the first that cannot be read to its end. -/
def Input.finished (inputs : List Input) : List Input :=
  inputs.takeWhile (·.failure.isNone)

theorem Input.finished_of_readable {inputs : List Input} (h : ∀ i ∈ inputs, i.failure = none) :
    finished inputs = inputs := by
  refine List.takeWhile_eq_self_iff.mpr fun i hi => ?_
  rw [h i hi]
  rfl

theorem Input.finished_cons_of_readable {input : Input} (h : input.failure = none)
    (inputs : List Input) : finished (input :: inputs) = input :: finished inputs :=
  List.takeWhile_cons_of_pos (by rw [h]; rfl)

theorem Input.finished_cons_of_failure {input : Input} {e : IoError} (h : input.failure = some e)
    (inputs : List Input) : finished (input :: inputs) = [] :=
  List.takeWhile_cons_of_neg (by rw [h]; simp)

/-! ### Labelled lines -/

/-- Some bytes are so many lines, each with a label before it and a newline behind it. -/
inductive Listed (label : Bytes) : Bytes → Nat → Prop
  | nil : Listed label [] 0
  | cons {line rest : Bytes} {n : Nat} (hline : Lines.newline ∉ line)
      (hrest : Listed label rest n) :
      Listed label (label ++ (line ++ Lines.newline :: rest)) (n + 1)

/-- **Bytes are no two numbers of lines.** -/
theorem Listed.unique {label bytes : Bytes} {n n' : Nat} (h : Listed label bytes n)
    (h' : Listed label bytes n') : n = n' := by
  induction h generalizing n' with
  | nil =>
      generalize hempty : ([] : Bytes) = bytes at h'
      cases h' with
      | nil => rfl
      | cons _ _ => simp at hempty
  | @cons line rest n hline _ ih =>
      generalize hbytes : label ++ (line ++ Lines.newline :: rest) = bytes at h'
      cases h' with
      | nil => simp at hbytes
      | cons hline' hrest' =>
          have hsame := List.append_cancel_left hbytes
          obtain ⟨rfl, rfl⟩ := Lines.append_cons_inj hline hline' hsame
          rw [ih hrest']

namespace Filter

variable (f : Filter)

theorem listed_render (input : Reference) {lines : List Bytes}
    (h : ∀ line ∈ lines, Lines.newline ∉ line) :
    Listed (f.label input) (lines.flatMap (f.render input)) lines.length := by
  induction lines with
  | nil => exact .nil
  | cons line lines ih =>
      obtain ⟨hline, hlines⟩ := List.forall_mem_cons.mp h
      have hcons := Listed.cons hline (ih hlines)
      rw [List.flatMap_cons, render_eq, List.append_assoc, List.append_assoc]
      exact hcons

/-! ### What each run prints -/

/-- The line with the number of lines that are selected in an input. -/
def numberLine (input : Input) (number : Nat) : Bytes :=
  f.label input.reference ++ (Text.encode (toString number).toList ++ [Lines.newline])

theorem shown_of_not_count (h : f.count = false) (input : Input) :
    f.shown input = (f.selected input).flatMap (f.render input.reference) := by
  simp [shown, listing, countLine, h]

theorem shown_of_count (h : f.count = true) {input : Input} (hfailure : input.failure = none) :
    f.shown input = f.numberLine input (f.selected input).length := by
  rw [numberLine, ← render_eq, Nat.toString_eq_repr, Nat.toList_repr]
  simp [shown, listing, countLine, h, hfailure]

theorem shown_of_count_of_failure (h : f.count = true) {input : Input} {e : IoError}
    (hfailure : input.failure = some e) : f.shown input = [] := by
  simp [shown, listing, h, hfailure]

/-- **A run that counts prints a number for each input that it finishes**, and nothing else. -/
theorem printed_of_count (h : f.count = true) (inputs : List Input) :
    f.printed inputs =
      (Input.finished inputs).flatMap fun i => f.numberLine i (f.selected i).length := by
  induction inputs with
  | nil => rfl
  | cons input inputs ih =>
      cases hfailure : input.failure with
      | none =>
          rw [f.printed_cons_of_readable hfailure, f.shown_of_count h hfailure, ih,
            Input.finished_cons_of_readable hfailure, List.flatMap_cons]
      | some e =>
          rw [f.printed_cons_of_failure hfailure, f.shown_of_count_of_failure h hfailure,
            Input.finished_cons_of_failure hfailure, List.flatMap_nil]

/-- A run that succeeds has finished all inputs, and returns the numbers of their lines in all. -/
theorem eq_sum_of_conclusion {inputs : List Input} {total : Nat}
    (h : f.conclusion 0 inputs = .ok total) :
    total = ((Input.finished inputs).map fun i => (f.selected i).length).sum := by
  unfold conclusion at h
  split at h
  · simp at h
  · next hnone =>
      have hreadable : ∀ i ∈ inputs, i.failure = none := List.findSome?_eq_none_iff.mp hnone
      rw [Input.finished_of_readable hreadable, ← List.length_flatMap]
      rw [Nat.zero_add] at h
      exact (Except.ok.inj h).symm

/-! ### The two runs -/

/-- **To count is to print numbers of lines in place of lines.**  Both runs have one result.  What
the printing run prints is what it prints for each input that it gets to, and that is a certain
number of lines; the counting run prints these numbers, for the inputs that are read to their ends,
and they add up to what it returns. -/
theorem run_count (pattern : Pattern) (invert withFilename : Bool) (inputs : List Input) :
    let printing : Filter := ⟨pattern, invert, false, withFilename⟩
    let counting : Filter := ⟨pattern, invert, true, withFilename⟩
    let printed := printing.run inputs .unlimited
    let counted := counting.run inputs .unlimited
    let part := fun i => (printing.run [i] .unlimited).output.written.toList
    counted.result = printed.result ∧ exitStatus counted.result = exitStatus printed.result ∧
      printed.output.written.toList = (Input.reached inputs).flatMap part ∧
      ∃ number : Input → Nat,
        (∀ i n, Listed (printing.label i.reference) (part i) n ↔ n = number i) ∧
        counted.output.written.toList =
          (Input.finished inputs).flatMap (fun i => counting.numberLine i (number i)) ∧
        ∀ total, counted.result = .ok total →
          total = ((Input.finished inputs).map number).sum := by
  intro printing counting printed counted part
  have hpart : ∀ i, part i = (printing.selected i).flatMap (printing.render i.reference) := by
    intro i
    show (printing.run [i] .unlimited).output.written.toList = _
    rw [written_run_unlimited, printed_singleton, printing.shown_of_not_count rfl]
  have hresult : counted.result = printed.result := by
    show (counting.run inputs .unlimited).result = (printing.run inputs .unlimited).result
    rw [result_run_unlimited, result_run_unlimited]
    -- which lines are selected does not depend on what is printed of them
    rfl
  refine ⟨hresult, congrArg exitStatus hresult, ?_, fun i => (printing.selected i).length, ?_, ?_,
    ?_⟩
  · rw [written_run_unlimited, List.flatMap_congr fun i _ => hpart i]
    exact List.flatMap_congr fun i _ => printing.shown_of_not_count rfl i
  · intro i n
    have hlisted : Listed (printing.label i.reference) (part i) (printing.selected i).length := by
      rw [hpart]
      exact printing.listed_render i.reference fun line hline =>
        i.notMem_of_mem_lines line (List.mem_of_mem_filter hline)
    refine ⟨fun h => h.unique hlisted, fun h => ?_⟩
    rw [h]
    exact hlisted
  · rw [written_run_unlimited, counting.printed_of_count rfl]
    rfl
  · intro total htotal
    rw [result_run_unlimited] at htotal
    exact counting.eq_sum_of_conclusion htotal

end Filter

end LineGlob
