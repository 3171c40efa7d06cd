/-
Lines chosen, and lines left.

A filter that neither counts nor names its inputs prints lines and nothing else: of all
lines that there are, those that are selected, each with a newline (`written_plain`).  Two
things follow.

A pattern divides the lines.  Each is printed by the filter or by its inverse and by no
more than one of them, and the two outputs merged again are all there was.

What has been printed can be filtered once more.  The lines that come out of it are those
that went in (`Lines.ofBytes_join`), and a line is selected for its bytes alone, so all of
them are selected again and the inverse selects none.
-/
import LineGlob.Proofs.Filter.Run
import LineGlob.Proofs.Input.Join

namespace LineGlob

/-! ### Merging -/

/-- A list is merged from two others: each of its elements in turn is the next one of either. -/
inductive Merged {α : Type} : List α → List α → List α → Prop
  | nil : Merged [] [] []
  | left {x : α} {xs ys zs : List α} (h : Merged xs ys zs) : Merged (x :: xs) ys (x :: zs)
  | right {y : α} {xs ys zs : List α} (h : Merged xs ys zs) : Merged xs (y :: ys) (y :: zs)

variable {α β : Type}

theorem Merged.map (g : α → β) {xs ys zs : List α} (h : Merged xs ys zs) :
    Merged (xs.map g) (ys.map g) (zs.map g) := by
  induction h with
  | nil => exact .nil
  | left _ ih => exact ih.left
  | right _ ih => exact ih.right

theorem Merged.length_eq {xs ys zs : List α} (h : Merged xs ys zs) :
    xs.length + ys.length = zs.length := by
  induction h with
  | nil => rfl
  | left _ ih => simp only [List.length_cons]; omega
  | right _ ih => simp only [List.length_cons]; omega

/-- Of two tests that never agree, each element of a list passes one. -/
theorem merged_filter {p q : α → Bool} (hq : ∀ x, q x = !p x) (xs : List α) :
    Merged (xs.filter p) (xs.filter q) xs := by
  induction xs with
  | nil => exact .nil
  | cons x xs ih =>
      by_cases hp : p x
      · have hnq : ¬ q x := by simp [hq, hp]
        rw [List.filter_cons_of_pos hp, List.filter_cons_of_neg hnq]
        exact ih.left
      · have hpq : q x := by simpa [hq] using hp
        rw [List.filter_cons_of_neg hp, List.filter_cons_of_pos hpq]
        exact ih.right

namespace Filter

/-! ### Lines alone -/

/-- The filter that prints the lines that a pattern selects, and nothing else. -/
def plain (pattern : Pattern) (invert : Bool) : Filter :=
  ⟨pattern, invert, false, false⟩

/-- The lines of some inputs that are selected. -/
def chosen (f : Filter) (inputs : List Input) : List Bytes :=
  (inputs.flatMap Input.lines).filter f.selects

theorem flatMap_selected (f : Filter) (inputs : List Input) :
    inputs.flatMap f.selected = f.chosen inputs := by
  rw [chosen, List.filter_flatMap]
  rfl

theorem notMem_of_mem_flatMap_lines (inputs : List Input) :
    ∀ line ∈ inputs.flatMap Input.lines, Lines.newline ∉ line := by
  intro line hline
  obtain ⟨i, -, hmem⟩ := List.mem_flatMap.mp hline
  exact i.notMem_of_mem_lines line hmem

theorem notMem_of_mem_chosen (f : Filter) (inputs : List Input) :
    ∀ line ∈ f.chosen inputs, Lines.newline ∉ line :=
  fun line hline => notMem_of_mem_flatMap_lines inputs line (List.mem_of_mem_filter hline)

variable {inputs : List Input}

/-- The lines of all inputs put together are what the inputs hold. -/
theorem join_lines (hreadable : ∀ i ∈ inputs, i.failure = none) :
    Lines.join (inputs.flatMap Input.lines) = inputs.flatMap fun i => Lines.ended i.data := by
  unfold Lines.join
  rw [List.flatMap_assoc]
  refine List.flatMap_congr fun i hi => ?_
  rw [Input.lines, hreadable i hi]
  exact Lines.join_ofBytes i.data

variable (pattern : Pattern) (invert : Bool)

theorem result_plain (hreadable : ∀ i ∈ inputs, i.failure = none) :
    ((plain pattern invert).run inputs .unlimited).result =
      .ok ((plain pattern invert).chosen inputs).length := by
  rw [result_run_unlimited, conclusion_of_readable _ hreadable, Nat.zero_add, total,
    flatMap_selected]

theorem shown_plain {input : Input} (hfailure : input.failure = none) :
    (plain pattern invert).shown input = Lines.join ((plain pattern invert).selected input) := by
  unfold shown countLine
  rw [hfailure]
  exact List.append_nil _

/-- **Of all lines those that are selected are printed**, each with a newline. -/
theorem written_plain (hreadable : ∀ i ∈ inputs, i.failure = none) :
    ((plain pattern invert).run inputs .unlimited).output.written.toList =
      Lines.join ((plain pattern invert).chosen inputs) := by
  rw [written_run_unlimited, printed, Input.reached_of_readable hreadable,
    List.flatMap_congr fun i hi => shown_plain pattern invert (hreadable i hi),
    ← flatMap_selected]
  unfold Lines.join
  rw [List.flatMap_assoc]

/-! ### A filter and its inverse -/

/-- The inverse selects what the filter leaves. -/
theorem selects_plain_not (line : Bytes) :
    (plain pattern (!invert)).selects line = !(plain pattern invert).selects line := by
  unfold selects plain
  rw [Bool.bne_not]

theorem merged_chosen (inputs : List Input) :
    Merged ((plain pattern false).chosen inputs) ((plain pattern true).chosen inputs)
      (inputs.flatMap Input.lines) :=
  merged_filter (selects_plain_not pattern false) _

/-- What a filter selects its inverse does not, in no inputs. -/
theorem notMem_chosen_not {line : Bytes} (h : line ∈ (plain pattern invert).chosen inputs)
    (others : List Input) : line ∉ (plain pattern !invert).chosen others := by
  intro hothers
  have hline : (plain pattern invert).selects line := (List.mem_filter.mp h).2
  have hinverse : (plain pattern !invert).selects line := (List.mem_filter.mp hothers).2
  rw [selects_plain_not, hline] at hinverse
  simp at hinverse

/-- **A filter and its inverse divide the lines.**  `whole` is what the inputs hold, with a newline
behind a last line that has none.  Its lines, with their newlines, are merged from the lines of the
two outputs, no line is in both, and each run returns the number of its lines. -/
theorem run_invert (pattern : Pattern) (inputs : List Input)
    (hreadable : ∀ i ∈ inputs, i.failure = none) :
    let straight := (plain pattern false).run inputs .unlimited
    let inverted := (plain pattern true).run inputs .unlimited
    let whole := inputs.flatMap fun i => Lines.ended i.data
    (∃ n m, straight.result = .ok n ∧ inverted.result = .ok m ∧
        n = straight.output.written.toList.count Lines.newline ∧
        m = inverted.output.written.toList.count Lines.newline ∧
        n + m = whole.count Lines.newline) ∧
      ∃ lines kept others, Lines.Segments whole lines ∧
        Lines.Segments straight.output.written.toList kept ∧
        Lines.Segments inverted.output.written.toList others ∧
        (∀ line ∈ lines, line.getLast? = some Lines.newline) ∧
        Merged kept others lines ∧ ∀ line ∈ kept, line ∉ others := by
  intro straight inverted whole
  have hlines := notMem_of_mem_flatMap_lines inputs
  have hkept := notMem_of_mem_chosen (plain pattern false) inputs
  have hothers := notMem_of_mem_chosen (plain pattern true) inputs
  have hmerged := merged_chosen pattern inputs
  -- the three byte strings are lines put together, and so everything is said of those lines
  have hwhole : whole = Lines.join (inputs.flatMap Input.lines) := (join_lines hreadable).symm
  have hstraight : straight.output.written.toList = _ := written_plain pattern false hreadable
  have hinverted : inverted.output.written.toList = _ := written_plain pattern true hreadable
  rw [hwhole, hstraight, hinverted]
  constructor
  · refine ⟨_, _, result_plain pattern false hreadable, result_plain pattern true hreadable,
      (Lines.count_newline_join hkept).symm, (Lines.count_newline_join hothers).symm, ?_⟩
    rw [Lines.count_newline_join hlines]
    exact hmerged.length_eq
  · refine ⟨_, _, _, Lines.segments_join hlines, Lines.segments_join hkept,
      Lines.segments_join hothers, ?_, hmerged.map _, ?_⟩
    · intro line hline
      obtain ⟨body, -, rfl⟩ := List.mem_map.mp hline
      exact List.getLast?_concat
    · intro line hline hboth
      obtain ⟨body, hbody, rfl⟩ := List.mem_map.mp hline
      obtain ⟨body', hbody', hsame⟩ := List.mem_map.mp hboth
      obtain rfl := List.append_cancel_right hsame
      exact notMem_chosen_not pattern false hbody inputs hbody'

/-- Two inputs that end in the middle of a line, one of them behind a carriage return, and one
that is empty. -/
theorem run_invert_unfinished :
    let pattern : Pattern := .ofSource "a*" .sensitive
    let inputs : List Input :=
      [⟨.file [97], [97, 13, 10, 98, 10, 10, 97, 13], none⟩, ⟨.file [98], [], none⟩,
        ⟨.stdin, [255, 10, 97, 98], none⟩]
    let straight := (plain pattern false).run inputs .unlimited
    let inverted := (plain pattern true).run inputs .unlimited
    (∀ i ∈ inputs, i.failure = none) ∧
      (∃ n m, straight.result = .ok n ∧ inverted.result = .ok m ∧ n + m = 6) ∧
      ∃ kept others, Lines.Segments straight.output.written.toList kept ∧
        Lines.Segments inverted.output.written.toList others ∧
        Merged kept others [[97, 13, 10], [98, 10], [10], [97, 13, 10], [255, 10], [97, 98, 10]] := by
  intro pattern inputs straight inverted
  have hreadable : ∀ i ∈ inputs, i.failure = none := by decide
  obtain ⟨⟨n, m, hn, hm, -, -, hsum⟩, lines, kept, others, hlines, hkept, hothers, -, hmerged, -⟩ :=
    run_invert pattern inputs hreadable
  have hwhole := @Lines.segments_join [[97, 13], [98], [], [97, 13], [255], [97, 98]] (by decide)
  have hsame := hlines.unique hwhole
  refine ⟨hreadable, ⟨n, m, hn, hm, hsum.trans ?_⟩, kept, others, hkept, hothers, ?_⟩
  · decide +kernel
  · rwa [hsame] at hmerged

/-! ### The output once more -/

/-- Lines that have been selected are selected again. -/
theorem chosen_join_chosen (f : Filter) (inputs : List Input) (reference : Reference) :
    f.chosen [⟨reference, Lines.join (f.chosen inputs), none⟩] = f.chosen inputs := by
  have hlines := Lines.ofBytes_join (notMem_of_mem_chosen f inputs)
  rw [chosen, List.flatMap_singleton, Input.lines, hlines]
  exact List.filter_eq_self.mpr fun line hline => (List.mem_filter.mp hline).2

/-- Lines that have been selected are not selected by the inverse. -/
theorem chosen_not_join_chosen (inputs : List Input) (reference : Reference) :
    (plain pattern !invert).chosen
      [⟨reference, Lines.join ((plain pattern invert).chosen inputs), none⟩] = [] := by
  have hlines := Lines.ofBytes_join (notMem_of_mem_chosen (plain pattern invert) inputs)
  refine List.eq_nil_iff_forall_not_mem.mpr fun line hline => ?_
  have hmem := List.mem_of_mem_filter hline
  rw [List.flatMap_singleton, Input.lines, hlines] at hmem
  exact notMem_chosen_not pattern invert hmem _ hline

/-- **To filter an output again changes nothing.**  The lines that a run has printed are selected
again, all of them, and the inverse selects none. -/
theorem run_again (pattern : Pattern) (invert : Bool) (inputs : List Input)
    (hreadable : ∀ i ∈ inputs, i.failure = none) (reference : Reference) :
    let first := (plain pattern invert).run inputs .unlimited
    let printed : Input := ⟨reference, first.output.written.toList, none⟩
    let second := (plain pattern invert).run [printed] .unlimited
    let inverse := (plain pattern !invert).run [printed] .unlimited
    (∃ total, first.result = .ok total ∧ second.result = .ok total) ∧
      second.output.written.toList = first.output.written.toList ∧
      inverse.result = .ok 0 ∧ inverse.output.written.toList = [] := by
  intro first printed second inverse
  have hfirst : first.output.written.toList = _ := written_plain pattern invert hreadable
  have hreadAgain : ∀ i ∈ [printed], i.failure = none := List.forall_mem_singleton.mpr rfl
  -- the lines of the second input are those that the first run has printed
  have hchosen : (plain pattern invert).chosen [printed] = (plain pattern invert).chosen inputs := by
    show Filter.chosen _ [⟨reference, first.output.written.toList, none⟩] = _
    rw [hfirst]
    exact chosen_join_chosen (plain pattern invert) inputs reference
  have hnone : (plain pattern !invert).chosen [printed] = [] := by
    show Filter.chosen _ [⟨reference, first.output.written.toList, none⟩] = _
    rw [hfirst]
    exact chosen_not_join_chosen pattern invert inputs reference
  refine ⟨⟨_, result_plain pattern invert hreadable, ?_⟩, ?_, ?_, ?_⟩
  · rw [result_plain pattern invert hreadAgain, hchosen]
  · rw [written_plain pattern invert hreadAgain, hchosen, hfirst]
  · rw [result_plain pattern (!invert) hreadAgain, hnone]
    rfl
  · rw [written_plain pattern (!invert) hreadAgain, hnone]
    rfl

/-- A last line that ends in a carriage return and has no newline, a byte that is no text, and an
empty line. -/
theorem run_again_carriageReturn :
    let pattern : Pattern := .ofSource "b" .sensitive
    let inputs : List Input :=
      [⟨.file [97], [98, 10, 97, 13], none⟩, ⟨.stdin, [255, 10, 10], none⟩]
    let first := (plain pattern true).run inputs .unlimited
    let printed : Input := ⟨.stdin, first.output.written.toList, none⟩
    (∀ i ∈ inputs, i.failure = none) ∧ first.output.written.toList = [97, 13, 10, 255, 10, 10] ∧
      ((plain pattern true).run [printed] .unlimited).output.written.toList =
        [97, 13, 10, 255, 10, 10] ∧
      ((plain pattern false).run [printed] .unlimited).result = .ok 0 := by
  intro pattern inputs first printed
  have hreadable : ∀ i ∈ inputs, i.failure = none := by decide
  have hfirst : first.output.written.toList = [97, 13, 10, 255, 10, 10] := by decide +kernel
  obtain ⟨-, hsecond, hinverse, -⟩ := run_again pattern true inputs hreadable .stdin
  exact ⟨hreadable, hfirst, hsecond.trans hfirst, hinverse⟩

end Filter

end LineGlob
