/-
The settings of a run.

The command line names settings files, and two of the names are no files: the empty one
and `-` take back every name before them and the default file with them.  `InForce` says
which sources remain, by the last such name alone: a list without one keeps all of its
names behind the default file, and of any other list the names behind the last one are
kept.  The program finds the same sources from the end of the list on.

With the sources settled, nothing else of the command line plays a part, nor does the
directory in which programs keep their settings, and of the files only those do that the
library reads for the sources.  What is taken back may therefore be missing, broken or
different from one run to the next.

Nothing here depends on which library reads the files.  Where a library leaves something
to chance, each way in which it can go is a library of its own, so two runs that agree
for every library can come to the same results, whatever chance decides.
-/
import LineGlob.Command
import LineGlob.Files.Tree
import LineGlob.Proofs.Document.Library
import LineGlob.Proofs.Settings.Load

namespace LineGlob.Command

open Settings (Source Taken Unusable)

/-! ### The sources that are in force -/

/-- A name that takes back what stands before it, and the default file. -/
def IsMarker (name : String) : Prop :=
  name = "" ∨ name = "-"

/-- The source of a file that the command line names: the file has to exist. -/
def named (name : String) : Source :=
  ⟨Text.encode name.toList, true⟩

/-- The default file is a source that need not exist, and there may be no place for it. -/
def unnamed (home : Option Bytes) : List Source :=
  (home.map defaultSettings).toList.map fun path => ⟨path, false⟩

/-- The sources that remain of the names on a command line. -/
inductive InForce (home : Option Bytes) : List String → List Source → Prop
  | all {names : List String} (h : ∀ name ∈ names, ¬ IsMarker name) :
      InForce home names (unnamed home ++ names.map named)
  | after {before names : List String} {marker : String} (hmarker : IsMarker marker)
      (h : ∀ name ∈ names, ¬ IsMarker name) :
      InForce home (before ++ marker :: names) (names.map named)

theorem isReset_iff {name : String} : Settings.isReset name = true ↔ IsMarker name := by
  simp [Settings.isReset, IsMarker]

theorem afterReset_of_unmarked {names : List String} (h : ∀ name ∈ names, ¬ IsMarker name) :
    Settings.afterReset names = (names, false) := by
  induction names with
  | nil => rfl
  | cons name names ih =>
      have hname : ¬ Settings.isReset name = true := fun hreset =>
        h name (by simp) (isReset_iff.mp hreset)
      rw [Settings.afterReset, ih fun other hother => h other (by simp [hother])]
      simp [hname]

theorem afterReset_append_marker {before names : List String} {marker : String}
    (hmarker : IsMarker marker) (h : ∀ name ∈ names, ¬ IsMarker name) :
    Settings.afterReset (before ++ marker :: names) = (names, true) := by
  induction before with
  | nil =>
      rw [List.nil_append, Settings.afterReset, afterReset_of_unmarked h]
      simp [isReset_iff.mpr hmarker]
  | cons name before ih =>
      rw [List.cons_append, Settings.afterReset, ih]
      rfl

/-- A list of names has a last marker, or none. -/
theorem exists_last_marker (names : List String) :
    (∀ name ∈ names, ¬ IsMarker name) ∨
      ∃ before marker later, names = before ++ marker :: later ∧ IsMarker marker ∧
        ∀ name ∈ later, ¬ IsMarker name := by
  induction names with
  | nil => exact Or.inl (by simp)
  | cons name names ih =>
      rcases ih with hnone | ⟨before, marker, later, rfl, hmarker, hlater⟩
      · by_cases hname : IsMarker name
        · exact Or.inr ⟨[], name, names, rfl, hname, hnone⟩
        · exact Or.inl (List.forall_mem_cons.mpr ⟨hname, hnone⟩)
      · exact Or.inr ⟨name :: before, marker, later, rfl, hmarker, hlater⟩

theorem InForce.eq_settingsSources {home : Option Bytes} {config : List String}
    {srcs : List Source} (h : InForce home config srcs) : srcs = settingsSources home config := by
  unfold settingsSources
  cases h with
  | all hnames =>
      rw [afterReset_of_unmarked hnames]
      unfold unnamed Settings.sources
      cases home <;> rfl
  | after hmarker hnames =>
      rw [afterReset_append_marker hmarker hnames]
      rfl

theorem inForce_settingsSources (home : Option Bytes) (config : List String) :
    InForce home config (settingsSources home config) := by
  rcases exists_last_marker config with hnone | ⟨before, marker, later, rfl, hmarker, hlater⟩
  · have h : InForce home config _ := .all hnone
    rwa [h.eq_settingsSources] at h
  · have h : InForce home (before ++ marker :: later) _ := .after hmarker hlater
    rwa [h.eq_settingsSources] at h

/-- **The program loads the sources that are in force.** -/
theorem inForce_iff {home : Option Bytes} {config : List String} {srcs : List Source} :
    InForce home config srcs ↔ srcs = settingsSources home config := by
  refine ⟨InForce.eq_settingsSources, ?_⟩
  rintro rfl
  exact inForce_settingsSources home config

/-! ### The settings -/

/-- **The settings of a run are those of the sources in force.**  A command line and a directory for
settings leave exactly one list of sources, and the settings depend on it alone: with any library,
a run with another command line, another directory and other files loads the same settings or fails
with the same error, if its sources are the same and the library reads the same for each of them.
With a library as documented, where each source has a flat file, or need not have one and has none,
every field is taken on its own from the last source that sets its key, or is the built-in one; and
loading fails exactly if a value that would be taken cannot be used. -/
theorem load_settingsSources (home : Option Bytes) (config : List String) :
    ∃ srcs, (∀ srcs', InForce home config srcs' ↔ srcs' = srcs) ∧
      (∀ lib home' config' fs fs', InForce home' config' srcs →
        (∀ s ∈ srcs, s.read lib fs = s.read lib fs') →
        Settings.load lib fs (settingsSources home config) =
          Settings.load lib fs' (settingsSources home' config')) ∧
      ∀ lib Found IsTable, lib.Documented Found IsTable →
        ∀ fs contents, List.Forall₂ (Source.Holds lib Found IsTable fs) srcs contents →
          (∀ settings, Settings.load lib fs (settingsSources home config) = .ok settings ↔
            Taken contents "ignore-case" false lib.toBool settings.ignoreCase ∧
            Taken contents "invert-match" false lib.toBool settings.invertMatch ∧
            Taken contents "with-filename" .auto lib.toFilenameMode settings.withFilename) ∧
          ((∃ e, Settings.load lib fs (settingsSources home config) = .error e) ↔
            Unusable contents "ignore-case" lib.toBool ∨
            Unusable contents "invert-match" lib.toBool ∨
            Unusable contents "with-filename" lib.toFilenameMode) := by
  refine ⟨settingsSources home config, fun srcs' => inForce_iff, ?_, ?_⟩
  · intro lib home' config' fs fs' hforce hsame
    rw [← hforce.eq_settingsSources]
    exact Settings.load_congr hsame
  · intro lib Found IsTable hlib fs contents hholds
    exact ⟨fun settings => Settings.load_eq_ok_iff hlib hholds,
      Settings.exists_load_eq_error_iff hlib hholds⟩

/-- The text of a document that sets one key. -/
def settingTo (value : String) : Bytes :=
  Text.encode ("\x7b\"ignore-case\":" ++ value ++ "\x7d").toList

/-- Two settings files, of which the first leaves a value out that the second fills in. -/
def twoFiles : FileSystem :=
  FileTree.fileSystem
    [([Text.encode "a.json".toList], some (settingTo "null")),
      ([Text.encode "b.json".toList], some (settingTo "true"))] [Path.slash]

/-- A source whose file is seen to set one key only, to a value of which the use is known. -/
theorem exists_holds_of_all {s : Source} {found : Bytes × Document.Format × Bytes}
    {use : Except Document.Problem Bool}
    (huse : ∀ origin, use ≠ .error (.notBoolean .table "ignore-case" origin))
    (hfind : Document.find twoFiles s.name = .ok found)
    (hread : ((Document.read twoFiles s.name s.required).toOption.any fun t =>
      t.length == 1 && t.all fun entry =>
        entry.1 == "ignore-case" && entry.2.toBool "ignore-case" == use) = true) :
    ∃ e : Document.Entry, e.toBool "ignore-case" = use ∧
      s.Holds Document.library Document.HasFile Document.IsTable twoFiles
        (some [("ignore-case", e)]) := by
  cases hresult : Document.read twoFiles s.name s.required with
  | error problem =>
      rw [hresult] at hread
      cases hread
  | ok t =>
      rw [hresult, Except.toOption, Option.any_some, Bool.and_eq_true, beq_iff_eq,
        List.length_eq_one_iff] at hread
      obtain ⟨⟨⟨key, e⟩, rfl⟩, hentry⟩ := hread
      simp only [List.all_cons, List.all_nil, Bool.and_true, Bool.and_eq_true, beq_iff_eq]
        at hentry
      obtain ⟨rfl, hvalue⟩ := hentry
      have htable : ¬ Document.IsTable e := Document.not_isTable_of_toBool hvalue huse
      refine ⟨e, hvalue, .file ⟨found, hfind⟩ ?_ ?_⟩
      · exact congrArg (Except.mapError Document.Problem.error) hresult
      · simpa [Settings.Flat] using ⟨by decide, htable⟩

theorem exists_holds_a :
    ∃ e, (named "a").Holds Document.library Document.HasFile Document.IsTable twoFiles
      (some [("ignore-case", e)]) := by
  have hfind : Document.find twoFiles (named "a").name =
      .ok (Text.encode "/a.json".toList, .json, settingTo "null") := by
    decide +kernel
  have huse : ∀ origin, (.error (.notBoolean .null "ignore-case" (some "a.json".toList)) :
      Except Document.Problem Bool) ≠ .error (.notBoolean .table "ignore-case" origin) := by
    simp
  obtain ⟨e, -, he⟩ := exists_holds_of_all huse hfind (by decide +kernel)
  exact ⟨e, he⟩

theorem exists_holds_b :
    ∃ e, Document.library.toBool "ignore-case" e = .ok true ∧
      (named "b.json").Holds Document.library Document.HasFile Document.IsTable twoFiles
        (some [("ignore-case", e)]) := by
  have hfind : Document.find twoFiles (named "b.json").name =
      .ok (Text.encode "/b.json".toList, .json, settingTo "true") := by
    decide +kernel
  have huse : ∀ origin, (.ok true : Except Document.Problem Bool) ≠
      .error (.notBoolean .table "ignore-case" origin) := by
    simp
  obtain ⟨e, htrue, he⟩ := exists_holds_of_all huse hfind (by decide +kernel)
  exact ⟨e, congrArg (Except.mapError Document.Problem.error) htrue, he⟩

/-- A missing file is taken back and an empty value is overridden, so what would fail on its own
does no harm; and a run without the missing file, with a directory for settings, loads the same. -/
theorem load_settingsSources_after_reset :
    Settings.load Document.library twoFiles (settingsSources none ["-", "a"]) =
        .error (Document.Problem.notBoolean .null "ignore-case" (some "a.json".toList)).error ∧
      Settings.load Document.library twoFiles
          (settingsSources none ["missing", "-", "a", "b.json"]) = .ok ⟨true, false, .auto⟩ ∧
      Settings.load Document.library twoFiles
          (settingsSources none ["missing", "-", "a", "b.json"]) =
        Settings.load Document.library twoFiles
          (settingsSources (some [Path.slash]) ["", "a", "b.json"]) := by
  have hnames : ∀ name ∈ ["a", "b.json"], ¬ IsMarker name := by
    simp [IsMarker]
  obtain ⟨srcs, hsrcs, hsame, hload⟩ := load_settingsSources none ["missing", "-", "a", "b.json"]
  have hforce : InForce none (["missing"] ++ "-" :: ["a", "b.json"]) (["a", "b.json"].map named) :=
    .after (Or.inr rfl) hnames
  obtain rfl := (hsrcs _).mp hforce
  refine ⟨by decide +kernel, ?_, ?_⟩
  · obtain ⟨v, hv⟩ := exists_holds_a
    obtain ⟨w, hw, hb⟩ := exists_holds_b
    have hholds : List.Forall₂
        (Source.Holds Document.library Document.HasFile Document.IsTable twoFiles)
        (["a", "b.json"].map named) [some [("ignore-case", v)], some [("ignore-case", w)]] :=
      .cons hv (.cons hb .nil)
    refine ((hload _ _ _ Document.documented_library twoFiles _ hholds).1 _).mpr
      ⟨Or.inl ⟨w, ?_, hw⟩, ?_, ?_⟩
    · exact ⟨[_], _, [], rfl, ⟨[], [], rfl, Settings.not_sets_nil _⟩, Settings.unset_nil _⟩
    · exact Or.inr ⟨by simp [Settings.Unset, Settings.Sets], rfl⟩
    · exact Or.inr ⟨by simp [Settings.Unset, Settings.Sets], rfl⟩
  · have hother : InForce (some [Path.slash]) ([] ++ "" :: ["a", "b.json"])
        (["a", "b.json"].map named) := .after (Or.inl rfl) hnames
    exact hsame _ _ _ twoFiles twoFiles hother fun _ _ => rfl

end LineGlob.Command
