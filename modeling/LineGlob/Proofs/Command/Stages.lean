/-
The stages of a run.

A run loads its settings, opens its inputs and filters them, and it gets to a stage only
if all of the one before has been done.  Nothing is printed before the last stage, so a
run that fails earlier leaves its output as it was, and says why it failed: the settings
cannot be loaded, or there is a first input that cannot be opened.

`Ends` lists these ways to end without a word about how a run is carried out, and a run
ends as it says and in no other way (`run_eq_ok_iff`).  What keeps an input from being
opened is told in the same manner, by what its path leads to (`Opens`, `Refused`).  Which
library reads the settings plays no part.
-/
import LineGlob.Command
import LineGlob.Document.Library
import LineGlob.Files.Tree
import Mathlib.Data.List.Forall2

namespace LineGlob

namespace Reference

/-! ### One input -/

/-- An input can be opened, and then this is what it holds. -/
inductive Opens (fs : FileSystem) (stdin : Content) : Reference → Input → Prop
  | stdin : Opens fs stdin .stdin ⟨.stdin, stdin.data, stdin.failure⟩
  | file {path : Bytes} {content : Content} (h : fs.lookup path = .ok (.file (.ok content))) :
      Opens fs stdin (.file path) ⟨.file path, content.data, content.failure⟩

/-- What the system fails to do with a path, and how. -/
inductive Fault (fs : FileSystem) (path : Bytes) : String → IoError → Prop
  /-- It does not get to where the path leads. -/
  | lookup {e : IoError} (h : fs.lookup path = .error e) :
      Fault fs path "failed to get information on" e
  /-- There is a file, which it does not open. -/
  | content {e : IoError} (h : fs.lookup path = .ok (.file (.error e))) :
      Fault fs path "failed to open" e

/-- An input cannot be opened, and why. -/
inductive Refused (fs : FileSystem) : Reference → Error → Prop
  | missing {path : Bytes} {action : String} {e : IoError} (h : Fault fs path action e)
      (hkind : e.kind = .notFound) : Refused fs (.file path) (.fileNotFound (Text.decodeLossy path))
  | directory {path : Bytes} (h : fs.lookup path = .ok .directory) :
      Refused fs (.file path)
        (.io ⟨.invalidInput, (Reference.file path).description ++ " is a directory"⟩)
  | other {path : Bytes} {action : String} {e : IoError} (h : Fault fs path action e)
      (hkind : e.kind ≠ .notFound) :
      Refused fs (.file path)
        (.io ⟨e.kind, action ++ " " ++ (Reference.file path).description ++ ": " ++ e.text⟩)

variable {fs : FileSystem} {stdin : Content} {r : Reference}

theorem accessError_of_notFound {path : Bytes} {e : IoError} (h : e.kind = .notFound)
    (action : String) :
    (Reference.file path).accessError action e = .fileNotFound (Text.decodeLossy path) := by
  unfold accessError
  rw [h]

theorem accessError_of_ne {path : Bytes} {e : IoError} (h : e.kind ≠ .notFound)
    (action : String) :
    (Reference.file path).accessError action e =
      .io ⟨e.kind, action ++ " " ++ (Reference.file path).description ++ ": " ++ e.text⟩ := by
  unfold accessError
  split
  · next hkind _ => exact absurd hkind h
  · rfl

theorem Fault.open_eq {path : Bytes} {action : String} {e : IoError} (h : Fault fs path action e)
    (stdin : Content) :
    (Reference.file path).open fs stdin = .error ((Reference.file path).accessError action e) := by
  cases h with
  | lookup h => simp only [«open», h]
  | content h => simp only [«open», h]

theorem Opens.open_eq {i : Input} (h : r.Opens fs stdin i) : r.open fs stdin = .ok i := by
  cases h with
  | stdin => rfl
  | file h => simp only [«open», h]

theorem Refused.open_eq {x : Error} (h : r.Refused fs x) (stdin : Content) :
    r.open fs stdin = .error x := by
  cases h with
  | missing h hkind => rw [h.open_eq, accessError_of_notFound hkind]
  | directory h => simp only [«open», h]
  | other h hkind => rw [h.open_eq, accessError_of_ne hkind]

theorem Fault.exists_refused {path : Bytes} {action : String} {e : IoError}
    (h : Fault fs path action e) : ∃ x, Refused fs (.file path) x := by
  by_cases hkind : e.kind = .notFound
  · exact ⟨_, .missing h hkind⟩
  · exact ⟨_, .other h hkind⟩

/-- An input can be opened or it cannot. -/
theorem opens_or_refused (fs : FileSystem) (stdin : Content) (r : Reference) :
    (∃ i, r.Opens fs stdin i) ∨ ∃ x, r.Refused fs x := by
  cases r with
  | stdin => exact .inl ⟨_, .stdin⟩
  | file path =>
      rcases hlookup : fs.lookup path with e | _ | e | content
      · exact .inr (Fault.lookup hlookup).exists_refused
      · exact .inr ⟨_, .directory hlookup⟩
      · exact .inr (Fault.content hlookup).exists_refused
      · exact .inl ⟨_, .file hlookup⟩

end Reference

namespace Command

/-! ### All inputs -/

variable {fs : FileSystem} {stdin : Content}

theorem openAll_cons_of_ok {r : Reference} {input : Input} (h : r.open fs stdin = .ok input)
    (refs : List Reference) :
    (openAll fs stdin (r :: refs)).2 = (openAll fs stdin refs).2.map (input :: ·) := by
  rw [openAll, h]

theorem openAll_cons_of_error {r : Reference} {x : Error} (h : r.open fs stdin = .error x)
    (refs : List Reference) : (openAll fs stdin (r :: refs)).2 = .error x := by
  rw [openAll, h]

/-- Inputs of which each can be opened are opened. -/
theorem openAll_of_opens {refs : List Reference} {inputs : List Input}
    (h : List.Forall₂ (Reference.Opens fs stdin) refs inputs) :
    (openAll fs stdin refs).2 = .ok inputs := by
  induction h with
  | nil => rfl
  | cons hopens _ ih =>
      rw [openAll_cons_of_ok hopens.open_eq, ih]
      rfl

/-- **The first input that cannot be opened is the one that is reported.** -/
theorem openAll_of_refused {before : List Reference} {r : Reference} {x : Error}
    (hbefore : ∀ q ∈ before, ∃ i, q.Opens fs stdin i) (h : r.Refused fs x)
    (later : List Reference) : (openAll fs stdin (before ++ r :: later)).2 = .error x := by
  induction before with
  | nil => exact openAll_cons_of_error (h.open_eq stdin) later
  | cons q before ih =>
      obtain ⟨⟨i, hq⟩, hbefore⟩ := List.forall_mem_cons.mp hbefore
      rw [List.cons_append, openAll_cons_of_ok hq.open_eq, ih hbefore]
      rfl

/-- Either all inputs can be opened, or there is a first that cannot. -/
theorem opens_or_exists_refused (fs : FileSystem) (stdin : Content) (refs : List Reference) :
    (∃ inputs, List.Forall₂ (Reference.Opens fs stdin) refs inputs) ∨
      ∃ before r later x, refs = before ++ r :: later ∧
        (∀ q ∈ before, ∃ i, q.Opens fs stdin i) ∧ r.Refused fs x := by
  induction refs with
  | nil => exact .inl ⟨[], .nil⟩
  | cons r refs ih =>
      rcases r.opens_or_refused fs stdin with ⟨i, hopens⟩ | ⟨x, hrefused⟩
      · rcases ih with ⟨inputs, hinputs⟩ | ⟨before, r', later, x, rfl, hbefore, hrefused⟩
        · exact .inl ⟨i :: inputs, .cons hopens hinputs⟩
        · exact .inr ⟨r :: before, r', later, x, rfl,
            List.forall_mem_cons.mpr ⟨⟨i, hopens⟩, hbefore⟩, hrefused⟩
      · exact .inr ⟨[], r, refs, x, rfl, by simp, hrefused⟩

/-! ### The run -/

/-- How a run ends: in which result, and with what output left behind. -/
inductive Ends (s : Surroundings) (a : Arguments) (output : Output) :
    Except Error Nat → Output → Prop
  /-- The settings cannot be loaded, whatever the inputs are. -/
  | settings {e : Settings.Error}
      (hload : Settings.load s.library s.files (settingsSources s.settingsHome a.config) =
        .error e) :
      Ends s a output (.error (.settings e)) output
  /-- All inputs before one can be opened, and that one cannot, whatever the later ones are. -/
  | refused {settings : Settings} {before later : List Reference} {r : Reference} {x : Error}
      (hload : Settings.load s.library s.files (settingsSources s.settingsHome a.config) =
        .ok settings)
      (hinputs : a.inputs = before ++ r :: later)
      (hbefore : ∀ q ∈ before, ∃ i, q.Opens s.files s.stdin i) (hrefused : r.Refused s.files x) :
      Ends s a output (.error x) output
  /-- All inputs can be opened, and they are filtered. -/
  | filtered {settings : Settings} {inputs : List Input} {outcome : Filter.Outcome}
      (hload : Settings.load s.library s.files (settingsSources s.settingsHome a.config) =
        .ok settings)
      (hinputs : List.Forall₂ (Reference.Opens s.files s.stdin) a.inputs inputs)
      (hrun : (Filter.ofArguments a settings a.inputs.length).run inputs output = outcome) :
      Ends s a output outcome.result outcome.output

variable {s : Surroundings} {a : Arguments} {output : Output}

theorem prepare_of_load_error {e : Settings.Error}
    (h : Settings.load s.library s.files (settingsSources s.settingsHome a.config) = .error e) :
    (prepare s a).2 = .error (.settings e) := by
  simp only [prepare, h]

theorem prepare_of_load {settings : Settings}
    (h : Settings.load s.library s.files (settingsSources s.settingsHome a.config) = .ok settings) :
    (prepare s a).2 =
      (openAll s.files s.stdin a.inputs).2.map
        (Filter.ofArguments a settings a.inputs.length, ·) := by
  simp only [prepare, h]

/-- A run that cannot be prepared prints nothing. -/
theorem runWith_of_error {x : Error} (h : (prepare s a).2 = .error x) (output : Output) :
    ∃ notes, runWith s a output = ⟨.error x, output, notes⟩ := by
  rcases hprepare : prepare s a with ⟨notes, prepared⟩
  rw [hprepare] at h
  subst h
  exact ⟨notes, by rw [runWith, hprepare]⟩

/-- A run that has been prepared filters, and adds to the notes only. -/
theorem runWith_of_ok {filter : Filter} {inputs : List Input}
    (h : (prepare s a).2 = .ok (filter, inputs)) (output : Output) :
    ∃ notes, runWith s a output =
      ⟨(filter.run inputs output).result, (filter.run inputs output).output, notes⟩ := by
  rcases hprepare : prepare s a with ⟨notes, prepared⟩
  rw [hprepare] at h
  subst h
  exact ⟨_, by rw [runWith, hprepare]⟩

theorem Ends.runWith_eq {result : Except Error Nat} {left : Output}
    (h : Ends s a output result left) : ∃ notes, runWith s a output = ⟨result, left, notes⟩ := by
  cases h with
  | settings hload => exact runWith_of_error (prepare_of_load_error hload) output
  | refused hload hinputs hbefore hrefused =>
      refine runWith_of_error ?_ output
      rw [prepare_of_load hload, hinputs, openAll_of_refused hbefore hrefused]
      rfl
  | filtered hload hinputs hrun =>
      rw [← hrun]
      refine runWith_of_ok ?_ output
      rw [prepare_of_load hload, openAll_of_opens hinputs]
      rfl

/-- Every run ends in one of the ways. -/
theorem exists_ends (s : Surroundings) (a : Arguments) (output : Output) :
    ∃ result left, Ends s a output result left := by
  cases hload : Settings.load s.library s.files (settingsSources s.settingsHome a.config) with
  | error e => exact ⟨_, _, .settings hload⟩
  | ok settings =>
      rcases opens_or_exists_refused s.files s.stdin a.inputs with
        ⟨inputs, hinputs⟩ | ⟨before, r, later, x, hinputs, hbefore, hrefused⟩
      · exact ⟨_, _, .filtered hload hinputs rfl⟩
      · exact ⟨_, _, .refused hload hinputs hbefore hrefused⟩

/-- **A run ends stage by stage.**  What it comes to and what it leaves of its output is just what
`Ends` says of the arguments on its command line. -/
theorem run_eq_ok_iff {args : List Bytes} {result : Except Error Nat} {left : Output} :
    (∃ notes, run s args output = .ok ⟨result, left, notes⟩) ↔
      ∃ a, Arguments.read s.env args = .ok a ∧ Ends s a output result left := by
  constructor
  · rintro ⟨notes, hrun⟩
    unfold run at hrun
    cases hread : Arguments.read s.env args with
    | error e =>
        rw [hread] at hrun
        cases hrun
    | ok a =>
        rw [hread] at hrun
        have hrunWith : runWith s a output = ⟨result, left, notes⟩ := Except.ok.inj hrun
        obtain ⟨result', left', hends⟩ := exists_ends s a output
        obtain ⟨notes', heq⟩ := hends.runWith_eq
        rw [hrunWith, Filter.Outcome.mk.injEq] at heq
        obtain ⟨rfl, rfl, -⟩ := heq
        exact ⟨a, rfl, hends⟩
  · rintro ⟨a, hread, hends⟩
    obtain ⟨notes, hrunWith⟩ := hends.runWith_eq
    refine ⟨notes, ?_⟩
    unfold run
    rw [hread, ← hrunWith]
    rfl

-- the first of three inputs can be opened, the second is missing, and the third is a directory
example :
    let files : FileTree := [([[98]], some [120, 10]), ([[100]], none)]
    let s : Surroundings :=
      ⟨[], none, Document.library, files.fileSystem [Path.slash], ⟨[], none⟩⟩
    (run s [[42], [98], [99], [100]] .unlimited).toOption.map (fun o => (o.result, o.output)) =
      some (.error (.fileNotFound ['c']), .unlimited) := by
  decide +kernel

end Command

end LineGlob
