/-
What is printed when nothing fails.

With inputs that can all be read and an output that takes everything, a run is a
function of what the inputs hold.  It is stated here in terms of segments, the pieces of
which the bytes themselves consist: each segment is selected by its text, which is
without the newline and then without one carriage return, and printed as it stands, with
a newline if it has none.  The filter works on lines instead, which have lost their
newlines; that the two agree is `Lines.trim_append_newline`.
-/
import LineGlob.Proofs.Filter.Run
import LineGlob.Proofs.Input.Lines

namespace LineGlob.Filter

variable (f : Filter)

/-- Whether a segment is selected: its text matches, or does not if the filter is inverted. -/
def picks (segment : Bytes) : Bool :=
  let text := Lines.trim Lines.carriageReturn (Lines.trim Lines.newline segment)
  f.pattern.isMatch (String.ofList (Text.decodeLossy text)) != f.invert

/-- What stands before each line that is printed for an input. -/
def label (input : Reference) : Bytes :=
  if f.withFilename then Text.encode input.displayName ++ Text.encode [':'] else []

theorem picks_eq_selects (segment : Bytes) :
    f.picks segment = f.selects (Lines.trim Lines.newline segment) := rfl

theorem render_eq (input : Reference) (line : Bytes) :
    f.render input line = f.label input ++ (line ++ [Lines.newline]) := by
  rw [← List.append_assoc]
  rfl

theorem render_trim (input : Reference) (segment : Bytes) :
    f.render input (Lines.trim Lines.newline segment) = f.label input ++ Lines.completed segment := by
  rw [render_eq, Lines.trim_append_newline]

/-! ### One input -/

variable {f} {input : Input} {segs : List Bytes}

theorem selected_eq_map (hfailure : input.failure = none)
    (hsegs : Lines.Segments input.data segs) :
    f.selected input = (segs.filter f.picks).map (Lines.trim Lines.newline) := by
  have hlines : input.lines = segs.map (Lines.trim Lines.newline) := by
    unfold Input.lines
    rw [hfailure]
    exact hsegs.ofBytes_eq
  have hpicks : f.selects ∘ Lines.trim Lines.newline = f.picks :=
    funext fun segment => (f.picks_eq_selects segment).symm
  rw [selected, hlines, List.filter_map, hpicks]

theorem length_selected_eq (hfailure : input.failure = none)
    (hsegs : Lines.Segments input.data segs) : (f.selected input).length = segs.countP f.picks := by
  rw [selected_eq_map hfailure hsegs, List.length_map, List.countP_eq_length_filter]

/-- An input that can be read shows its selected segments, or how many they are. -/
theorem shown_eq (hfailure : input.failure = none) (hsegs : Lines.Segments input.data segs) :
    f.shown input =
      if f.count then
        f.label input.reference ++
          (Text.encode (toString (segs.countP f.picks)).toList ++ [Lines.newline])
      else
        (segs.filter f.picks).flatMap fun segment =>
          f.label input.reference ++ Lines.completed segment := by
  unfold shown listing countLine
  rw [hfailure, length_selected_eq hfailure hsegs, selected_eq_map hfailure hsegs]
  by_cases hcount : f.count
  · simp only [hcount, if_true, render_eq]
    rw [Nat.toString_eq_repr, Nat.toList_repr]
    rfl
  · simp only [hcount, List.flatMap_map, render_trim]
    simp

/-! ### The run -/

/-- **A run in which nothing fails prints the segments that are selected**, or how many they are
for each input, and returns how many they are in all. -/
theorem run_of_readable (f : Filter) (inputs : List Input)
    (hreadable : ∀ i ∈ inputs, i.failure = none) :
    (∀ i ∈ inputs, ∃! segs, Lines.Segments i.data segs) ∧
      ∀ segs : Input → List Bytes, (∀ i ∈ inputs, Lines.Segments i.data (segs i)) →
        (f.run inputs .unlimited).result =
            .ok (inputs.flatMap fun i => (segs i).filter f.picks).length ∧
          (f.run inputs .unlimited).output.written.toList =
            if f.count then
              inputs.flatMap fun i =>
                f.label i.reference ++
                  (Text.encode (toString ((segs i).countP f.picks)).toList ++ [Lines.newline])
            else
              inputs.flatMap fun i =>
                ((segs i).filter f.picks).flatMap fun segment =>
                  f.label i.reference ++ Lines.completed segment := by
  refine ⟨fun i _ => ?_, fun segs hsegs => ⟨?_, ?_⟩⟩
  · obtain ⟨segs, hsegs⟩ := Lines.exists_segments i.data
    exact ⟨segs, hsegs, fun segs' hsegs' => hsegs'.unique hsegs⟩
  · have hcounts : f.total inputs = (inputs.flatMap fun i => (segs i).filter f.picks).length := by
      unfold total
      rw [List.flatMap_congr fun i hi => selected_eq_map (hreadable i hi) (hsegs i hi),
        ← List.map_flatMap, List.length_map]
    rw [result_run_unlimited, f.conclusion_of_readable hreadable, hcounts, Nat.zero_add]
  · rw [written_run_unlimited, printed, Input.reached_of_readable hreadable,
      List.flatMap_congr fun i hi => shown_eq (hreadable i hi) (hsegs i hi)]
    split
    · rfl
    · rfl

/-- Both ways to end a line, a byte that is no text, a line that is left out, a last line without an
end, and an input without lines. -/
theorem run_of_readable_lineEnds :
    let f : Filter := ⟨.ofSource "?" .sensitive, false, false, true⟩
    let inputs : List Input :=
      [⟨.file [97], [120, 13, 10, 255, 10, 122, 122, 10, 121], none⟩, ⟨.stdin, [], none⟩]
    (∀ i ∈ inputs, i.failure = none) ∧
      (f.run inputs .unlimited).result = .ok 3 ∧
        (f.run inputs .unlimited).output.written.toList =
          [97, 58, 120, 13, 10, 97, 58, 255, 10, 97, 58, 121, 10] := by
  intro f inputs
  have hreadable : ∀ i ∈ inputs, i.failure = none := by decide
  let segs : Input → List Bytes := fun i =>
    if i.data = [] then [] else [[120, 13, 10], [255, 10], [122, 122, 10], [121]]
  have hlast : Lines.Segments [121] [[121]] := .last (by decide) (by decide)
  have hthird := @Lines.Segments.cons [122, 122] _ _ (by decide) hlast
  have hsecond := @Lines.Segments.cons [255] _ _ (by decide) hthird
  have hfirst := @Lines.Segments.cons [120, 13] _ _ (by decide) hsecond
  have hsegs : ∀ i ∈ inputs, Lines.Segments i.data (segs i) :=
    List.forall_mem_cons.mpr ⟨hfirst, List.forall_mem_cons.mpr ⟨.nil, by simp⟩⟩
  obtain ⟨hresult, hwritten⟩ := (run_of_readable f inputs hreadable).2 segs hsegs
  refine ⟨hreadable, hresult.trans (congrArg Except.ok ?_), hwritten.trans ?_⟩
  · decide +kernel
  · decide +kernel

end LineGlob.Filter
