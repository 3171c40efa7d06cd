/-
The inputs that a command line names.

Standard input can be read once, and a command line may name it any number of times.  The
list of inputs is made in one pass that drops standard input where it has been seen before,
and falls back on it if nothing was named at all.  What the pass is to do can be said
without it: find the first dash and take out every dash behind it (`withoutLaterDashes`).

The two meet in the flag of the pass.  Before the first dash it changes nothing, and from
there on, whatever came before, the pass is a filter (`dropRepeatedStdin_true`).  Everything
else is read off the paths that are left: how many inputs there are, which is what decides
whether names are shown, where standard input stands, and that a path other than a dash is
never lost, however often it is named.
-/
import LineGlob.Command
import Mathlib.Data.List.Basic

namespace LineGlob

namespace Reference

/-- Paths without the dashes behind the first one. -/
def withoutLaterDashes : List Bytes → List Bytes
  | [] => []
  | path :: paths =>
    if path = dash then dash :: paths.filter (· ≠ dash) else path :: withoutLaterDashes paths

variable {path : Bytes} {paths : List Bytes}

@[simp] theorem ofPath_dash : ofPath dash = stdin := if_pos rfl

theorem ofPath_of_ne (h : path ≠ dash) : ofPath path = file path := if_neg h

theorem ofPath_eq_stdin_iff : ofPath path = stdin ↔ path = dash := by
  constructor
  · intro h
    by_contra hne
    rw [ofPath_of_ne hne] at h
    cases h
  · intro h
    rw [h]
    exact ofPath_dash

/-- The references of paths other than a dash are these files. -/
theorem map_ofPath_filter (paths : List Bytes) :
    (paths.filter (· ≠ dash)).map ofPath = (paths.filter (· ≠ dash)).map file := by
  refine List.map_congr_left ?_
  intro path hpath
  have hne : path ≠ dash := by simpa using (List.mem_filter.mp hpath).2
  exact ofPath_of_ne hne

/-! ### Leaving out what is repeated -/

/-- Once standard input has been seen, it is left out wherever it stands. -/
theorem dropRepeatedStdin_true (paths : List Bytes) :
    dropRepeatedStdin true (paths.map ofPath) = (paths.filter (· ≠ dash)).map ofPath := by
  induction paths with
  | nil => rfl
  | cons path paths ih =>
      by_cases hpath : path = dash
      · subst hpath
        rw [List.map_cons, ofPath_dash, List.filter_cons_of_neg (by simp), ← ih]
        rfl
      · rw [List.map_cons, ofPath_of_ne hpath, List.filter_cons_of_pos (by simpa using hpath),
          List.map_cons, ofPath_of_ne hpath, ← ih]
        rfl

/-- **What is left out are the dashes behind the first one.** -/
theorem dropRepeatedStdin_false (paths : List Bytes) :
    dropRepeatedStdin false (paths.map ofPath) = (withoutLaterDashes paths).map ofPath := by
  fun_induction withoutLaterDashes paths with
  | case1 => rfl
  | case2 paths =>
      rw [List.map_cons, List.map_cons, ofPath_dash, ← dropRepeatedStdin_true]
      rfl
  | case3 path paths hpath ih =>
      rw [List.map_cons, List.map_cons, ofPath_of_ne hpath, ← ih]
      rfl

theorem withoutLaterDashes_eq_nil_iff : withoutLaterDashes paths = [] ↔ paths = [] := by
  fun_cases withoutLaterDashes paths with
  | case1 => simp
  | case2 paths => simp
  | case3 path paths hpath => simp

/-- The inputs are those of the paths that are left, and standard input if no path is named. -/
theorem ofPaths_eq (paths : List Bytes) :
    ofPaths paths = if paths = [] then [stdin] else (withoutLaterDashes paths).map ofPath := by
  unfold ofPaths
  rw [dropRepeatedStdin_false]
  by_cases hpaths : paths = []
  · subst hpaths
    rfl
  · rw [if_neg hpaths]
    split
    · rename_i hnil
      rw [List.map_eq_nil_iff, withoutLaterDashes_eq_nil_iff] at hnil
      exact absurd hnil hpaths
    · rfl

/-! ### What is left -/

/-- **Nothing but dashes is left out.** -/
theorem filter_withoutLaterDashes (paths : List Bytes) :
    (withoutLaterDashes paths).filter (· ≠ dash) = paths.filter (· ≠ dash) := by
  fun_induction withoutLaterDashes paths with
  | case1 => rfl
  | case2 paths =>
      rw [List.filter_cons_of_neg (by simp), List.filter_cons_of_neg (by simp),
        List.filter_filter]
      simp
  | case3 path paths hpath ih =>
      rw [List.filter_cons_of_pos (by simpa using hpath),
        List.filter_cons_of_pos (by simpa using hpath), ih]

theorem count_dash_le_one (paths : List Bytes) : (withoutLaterDashes paths).count dash ≤ 1 := by
  fun_induction withoutLaterDashes paths with
  | case1 => simp
  | case2 paths =>
      have hnone : dash ∉ paths.filter (· ≠ dash) := by simp
      have hcount := List.count_eq_zero_of_not_mem hnone
      rw [List.count_cons_self]
      omega
  | case3 path paths hpath ih =>
      rw [List.count_cons_of_ne hpath]
      exact ih

/-- The first dash stays where it is. -/
theorem getElem?_idxOf_dash (h : dash ∈ paths) :
    (withoutLaterDashes paths)[paths.idxOf dash]? = some dash := by
  fun_induction withoutLaterDashes paths with
  | case1 => cases h
  | case2 paths =>
      rw [List.idxOf_cons_self]
      rfl
  | case3 path paths hpath ih =>
      have hlater : dash ∈ paths := by
        rcases List.mem_cons.mp h with heq | hlater
        · exact absurd heq.symm hpath
        · exact hlater
      rw [List.idxOf_cons_ne paths hpath, List.getElem?_cons_succ]
      exact ih hlater

/-- Standard input is among the inputs as often as a dash is among the paths that are left. -/
theorem count_stdin_map_ofPath (paths : List Bytes) :
    (paths.map ofPath).count stdin = paths.count dash := by
  rw [List.count, List.countP_map, List.count]
  refine List.countP_congr ?_
  intro path _
  simp [ofPath_eq_stdin_iff]

/-- The files among the inputs are the paths that are no dash. -/
theorem filter_map_ofPath (paths : List Bytes) :
    (paths.map ofPath).filter (· ≠ stdin) = (paths.filter (· ≠ dash)).map file := by
  rw [List.filter_map, ← map_ofPath_filter]
  congr 1
  refine List.filter_congr ?_
  intro path _
  simp [ofPath_eq_stdin_iff]

end Reference

namespace Arguments

open Reference (dash ofPath withoutLaterDashes)

variable (a : Arguments)

theorem inputs_of_no_files (h : a.files = []) : a.inputs = [.stdin] := by
  show Reference.ofPaths a.files = [.stdin]
  rw [Reference.ofPaths_eq, if_pos h]

theorem inputs_of_files (h : a.files ≠ []) : a.inputs = (withoutLaterDashes a.files).map ofPath := by
  show Reference.ofPaths a.files = _
  rw [Reference.ofPaths_eq, if_neg h]

/-- Names are shown automatically if more than one path is left. -/
theorem one_lt_length_inputs_iff :
    1 < a.inputs.length ↔ 2 ≤ (withoutLaterDashes a.files).length := by
  by_cases hfiles : a.files = []
  · rw [inputs_of_no_files a hfiles, hfiles]
    simp [withoutLaterDashes]
  · rw [inputs_of_files a hfiles, List.length_map]
    exact Iff.rfl

/-- **The inputs of a command line lose nothing but repeated standard input.**  There is an input,
and standard input is one at most once.  If no path is named it is the only one.  Otherwise the
inputs are those of the paths without the dashes behind the first one: every other path is there, in
order and as often as it is named, and standard input stands where the first dash does.  Left to
themselves, names are therefore shown exactly if at least two such paths are left. -/
theorem inputs_without_repetition (s : Settings) :
    a.inputs ≠ [] ∧ a.inputs.count .stdin ≤ 1 ∧
      (a.files = [] → a.inputs = [.stdin]) ∧
      (a.files ≠ [] → a.inputs = (withoutLaterDashes a.files).map ofPath ∧
        a.inputs.filter (· ≠ .stdin) = (a.files.filter (· ≠ dash)).map .file) ∧
      (dash ∈ a.files → a.inputs[a.files.idxOf dash]? = some .stdin) ∧
      (a.filenameMode.getD s.withFilename = .auto →
        ((Filter.ofArguments a s a.inputs.length).withFilename = true ↔
          2 ≤ (withoutLaterDashes a.files).length)) := by
  refine ⟨?_, ?_, inputs_of_no_files a, ?_, ?_, ?_⟩
  · by_cases hfiles : a.files = []
    · rw [inputs_of_no_files a hfiles]
      simp
    · rw [inputs_of_files a hfiles]
      intro hnil
      rw [List.map_eq_nil_iff, Reference.withoutLaterDashes_eq_nil_iff] at hnil
      exact hfiles hnil
  · by_cases hfiles : a.files = []
    · rw [inputs_of_no_files a hfiles]
      simp
    · rw [inputs_of_files a hfiles, Reference.count_stdin_map_ofPath]
      exact Reference.count_dash_le_one a.files
  · intro hfiles
    refine ⟨inputs_of_files a hfiles, ?_⟩
    rw [inputs_of_files a hfiles, Reference.filter_map_ofPath,
      Reference.filter_withoutLaterDashes]
  · intro hdash
    have hfiles : a.files ≠ [] := List.ne_nil_of_mem hdash
    rw [inputs_of_files a hfiles, List.getElem?_map, Reference.getElem?_idxOf_dash hdash]
    show some (ofPath dash) = some .stdin
    rw [Reference.ofPath_dash]
  · intro hmode
    have hshown : (Filter.ofArguments a s a.inputs.length).withFilename =
        FilenameMode.shows a.inputs.length (a.filenameMode.getD s.withFilename) := rfl
    rw [hshown, hmode, ← one_lt_length_inputs_iff]
    exact decide_eq_true_iff

/-- A command line that asks for nothing but a pattern and names files. -/
def ofFiles (files : List Bytes) : Arguments :=
  ⟨[], false, false, false, false, none, false, "*", files⟩

/-- Two dashes are one input, for which no name is shown; with a file between them there are two
inputs, and their names are. -/
theorem inputs_without_repetition_dashes :
    (Filter.ofArguments (ofFiles [dash, dash]) default
        (ofFiles [dash, dash]).inputs.length).withFilename = false ∧
      (Filter.ofArguments (ofFiles [dash, [102], dash]) default
        (ofFiles [dash, [102], dash]).inputs.length).withFilename = true := by
  refine ⟨?_, ?_⟩
  · obtain ⟨-, -, -, -, -, hshown⟩ := inputs_without_repetition (ofFiles [dash, dash]) default
    rw [← Bool.not_eq_true, hshown rfl]
    decide
  · obtain ⟨-, -, -, -, -, hshown⟩ :=
      inputs_without_repetition (ofFiles [dash, [102], dash]) default
    rw [hshown rfl]
    decide

end Arguments

end LineGlob
