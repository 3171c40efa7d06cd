/-
What loading settings comes to.

Loading asks a library for the files of its sources, in order, and so depends on nothing
but what it gets for them (`load_congr`).

What is loaded is described for sources with flat files, where a source that need not
have a file may have none.  `Source.Holds` says what a source has.  All of the sources
are then read without an error, and what is set in the end is what they choose
(`exists_layers`): an induction over the sources, with one file more laid over the others
in each step.

The conversions come only after that.  The settings are gone through key by key, with all
fields updated in each step, and since a key belongs to one field only, this comes to the
same as going through the keys for each field alone (`ofEntries_eq_ok_iff`).  In which
order the keys come does not matter then, because the key of a field comes once
(`foldlM_update_eq_ok_iff`).  Each field sees the chosen value and nothing else, and a value
that was replaced is never converted.
-/
import LineGlob.Proofs.Settings.Library
import Mathlib.Data.List.Forall2
import Mathlib.Data.List.Nodup

namespace LineGlob.Settings

variable {lib : Library} {fs fs' : FileSystem} {srcs : List Source} {s : Source}

/-! ### What loading looks at -/

/-- What a library reads for a source. -/
def Source.read (s : Source) (lib : Library) (fs : FileSystem) :
    Except Error (List (String × lib.Value)) :=
  lib.read fs s.name s.required

/-- **Loading depends on what is read for the sources alone.** -/
theorem load_congr (h : ∀ s ∈ srcs, s.read lib fs = s.read lib fs') :
    load lib fs srcs = load lib fs' srcs := by
  have hlayers : ∀ l : lib.Layers,
      srcs.foldlM (fun l s => (lib.read fs s.name s.required).map (lib.add l)) l =
        srcs.foldlM (fun l s => (lib.read fs' s.name s.required).map (lib.add l)) l := by
    induction srcs with
    | nil => intro l; rfl
    | cons s srcs ih =>
        intro l
        obtain ⟨hs, hsrcs⟩ := List.forall_mem_cons.mp h
        unfold Source.read at hs
        rw [List.foldlM_cons, List.foldlM_cons, hs]
        exact congrArg _ (funext (ih hsrcs))
  unfold load Library.layers
  rw [hlayers]

/-! ### What a source has -/

variable {Found : FileSystem → List Char → Prop} {IsTable : lib.Value → Prop}

/-- What a source has: a flat file, or nothing if there is no file and there need not be one. -/
inductive Source.Holds (lib : Library) (Found : FileSystem → List Char → Prop)
    (IsTable : lib.Value → Prop) (fs : FileSystem) (s : Source) :
    Option (List (String × lib.Value)) → Prop
  | nothing (hoptional : s.required = false) (h : ¬ Found fs s.name) :
      Holds lib Found IsTable fs s none
  | file {t : List (String × lib.Value)} (hfound : Found fs s.name) (h : s.read lib fs = .ok t)
      (hflat : Flat IsTable t) : Holds lib Found IsTable fs s (some t)

/-- A source that need not have a file and has none is read as a file that sets nothing. -/
theorem Source.Holds.read_eq (hlib : lib.Documented Found IsTable)
    {content : Option (List (String × lib.Value))}
    (h : s.Holds lib Found IsTable fs content) : s.read lib fs = .ok (content.getD []) := by
  cases h with
  | nothing hoptional hmissing =>
      unfold read
      rw [hoptional]
      exact hlib.read_of_not_found hmissing
  | file _ hread _ => exact hread

theorem Source.Holds.flat {content : Option (List (String × lib.Value))}
    (h : s.Holds lib Found IsTable fs content) : Flat IsTable (content.getD []) := by
  cases h with
  | nothing => simp [Flat]
  | file _ _ hflat => exact hflat

/-- **Sources with flat files add up**: each key has the value that is chosen for it, or the one it
had before. -/
theorem exists_foldlM_add (hlib : lib.Documented Found IsTable)
    {contents : List (Option (List (String × lib.Value)))}
    (h : List.Forall₂ (Source.Holds lib Found IsTable fs) srcs contents) (l : lib.Layers) :
    ∃ l', srcs.foldlM (fun l s => (lib.read fs s.name s.required).map (lib.add l)) l = .ok l' ∧
      ∀ key v, (key, v) ∈ lib.entries l' ↔
        Chosen key contents v ∨ Unset key contents ∧ (key, v) ∈ lib.entries l := by
  induction h generalizing l with
  | nil =>
      refine ⟨l, rfl, ?_⟩
      intro key v
      simp [not_chosen_nil, unset_nil]
  | @cons s content srcs contents hs _ ih =>
      obtain ⟨l', hrun, hentries⟩ := ih (lib.add l (content.getD []))
      refine ⟨l', ?_, ?_⟩
      · have hread := hs.read_eq hlib
        unfold Source.read at hread
        rw [List.foldlM_cons, hread]
        exact hrun
      · intro key v
        rw [hentries, hlib.mem_entries_add hs.flat, chosen_cons, unset_cons]
        cases content with
        | none =>
            have hnot : ¬ Gives ([] : List (String × lib.Value)) key v := fun hgives =>
              not_sets_nil key hgives.sets
            simp [hnot, not_sets_nil]
        | some t =>
            simp only [Option.getD_some, Option.some.injEq, forall_eq', exists_eq_left']
            tauto

/-- What is set is what the sources choose. -/
def Reflects (lib : Library) (contents : List (Option (List (String × lib.Value))))
    (l : lib.Layers) : Prop :=
  ∀ key v, (key, v) ∈ lib.entries l ↔ Chosen key contents v

theorem exists_layers (hlib : lib.Documented Found IsTable)
    {contents : List (Option (List (String × lib.Value)))}
    (h : List.Forall₂ (Source.Holds lib Found IsTable fs) srcs contents) :
    ∃ l, lib.layers fs srcs = .ok l ∧ Reflects lib contents l := by
  obtain ⟨l, hrun, hentries⟩ := exists_foldlM_add hlib h lib.bare
  refine ⟨l, hrun, ?_⟩
  intro key v
  rw [hentries, hlib.entries_bare]
  simp

/-! ### Fields -/

theorem bind_eq_ok_iff {α β : Type} {x : Except Error α} {f : α → Except Error β} {b : β} :
    (x >>= f) = .ok b ↔ ∃ a, x = .ok a ∧ f a = .ok b := by
  cases x with
  | error e =>
      refine ⟨?_, ?_⟩
      · intro h
        cases h
      · rintro ⟨a, ⟨⟩, -⟩
  | ok a =>
      refine ⟨fun h => ⟨a, rfl, h⟩, ?_⟩
      rintro ⟨_, ⟨⟩, h⟩
      exact h

/-- One key updates the fields independently of each other. -/
theorem updateAll_eq_ok_iff {entry : String × lib.Value} {old new : Settings} :
    lib.updateAll old entry = .ok new ↔
      lib.update "ignore-case" lib.toBool old.ignoreCase entry = .ok new.ignoreCase ∧
      lib.update "invert-match" lib.toBool old.invertMatch entry = .ok new.invertMatch ∧
      lib.update "with-filename" lib.toFilenameMode old.withFilename entry =
        .ok new.withFilename := by
  obtain ⟨ignoreCase, invertMatch, withFilename⟩ := new
  unfold Library.updateAll
  simp only [bind_eq_ok_iff]
  refine ⟨?_, ?_⟩
  · rintro ⟨_, hignore, _, hinvert, _, hfilename, ⟨⟩⟩
    exact ⟨hignore, hinvert, hfilename⟩
  · rintro ⟨hignore, hinvert, hfilename⟩
    exact ⟨_, hignore, _, hinvert, _, hfilename, rfl⟩

theorem foldlM_updateAll_eq_ok_iff {entries : List (String × lib.Value)} {old new : Settings} :
    entries.foldlM lib.updateAll old = .ok new ↔
      entries.foldlM (lib.update "ignore-case" lib.toBool) old.ignoreCase = .ok new.ignoreCase ∧
      entries.foldlM (lib.update "invert-match" lib.toBool) old.invertMatch =
        .ok new.invertMatch ∧
      entries.foldlM (lib.update "with-filename" lib.toFilenameMode) old.withFilename =
        .ok new.withFilename := by
  induction entries generalizing old with
  | nil =>
      obtain ⟨ignoreCase, invertMatch, withFilename⟩ := old
      obtain ⟨ignoreCase', invertMatch', withFilename'⟩ := new
      simp [pure, Except.pure]
  | cons entry entries ih =>
      simp only [List.foldlM_cons, bind_eq_ok_iff, updateAll_eq_ok_iff, ih]
      refine ⟨?_, ?_⟩
      · rintro ⟨next, ⟨hignore, hinvert, hfilename⟩, hignore', hinvert', hfilename'⟩
        exact ⟨⟨_, hignore, hignore'⟩, ⟨_, hinvert, hinvert'⟩, ⟨_, hfilename, hfilename'⟩⟩
      · rintro ⟨⟨_, hignore, hignore'⟩, ⟨_, hinvert, hinvert'⟩, ⟨_, hfilename, hfilename'⟩⟩
        exact ⟨⟨_, _, _⟩, ⟨hignore, hinvert, hfilename⟩, hignore', hinvert', hfilename'⟩

section Fields

variable {α : Type} {contents : List (Option (List (String × lib.Value)))} {l : lib.Layers}
  {key : String} {absent a : α} {convert : String → lib.Value → Except Error α}

theorem foldlM_update_of_notMem {entries : List (String × lib.Value)}
    (h : ∀ v, (key, v) ∉ entries) (sofar : α) :
    entries.foldlM (lib.update key convert) sofar = .ok sofar := by
  induction entries with
  | nil => rfl
  | cons entry entries ih =>
      have hne : entry.1 ≠ key := fun heq => h entry.2 (heq ▸ List.mem_cons_self)
      have hstep : lib.update key convert sofar entry = .ok sofar := if_neg hne
      rw [List.foldlM_cons, hstep]
      exact ih fun v hv => h v (List.mem_cons_of_mem entry hv)

/-- **A field is what its key is set to**, or stays as it is if its key is not set. -/
theorem foldlM_update_eq_ok_iff {entries : List (String × lib.Value)}
    (hnodup : (entries.map Prod.fst).Nodup) :
    entries.foldlM (lib.update key convert) absent = .ok a ↔
      (∃ v, (key, v) ∈ entries ∧ convert key v = .ok a) ∨
        (∀ v, (key, v) ∉ entries) ∧ a = absent := by
  induction entries with
  | nil => simp [pure, Except.pure, eq_comm]
  | cons entry entries ih =>
      obtain ⟨name, w⟩ := entry
      rw [List.map_cons, List.nodup_cons] at hnodup
      obtain ⟨hfirst, hlater⟩ := hnodup
      rw [List.foldlM_cons, bind_eq_ok_iff]
      by_cases heq : name = key
      · subst heq
        have hnone : ∀ v, (name, v) ∉ entries := by
          intro v hv
          exact hfirst (List.mem_map.mpr ⟨(name, v), hv, rfl⟩)
        have hstep : lib.update name convert absent (name, w) = convert name w := if_pos rfl
        simp only [hstep, foldlM_update_of_notMem hnone, List.mem_cons, Prod.mk.injEq, true_and,
          hnone, or_false, Except.ok.injEq, exists_eq_right, exists_eq_left]
        simp
      · have hstep : lib.update key convert absent (name, w) = .ok absent := if_neg heq
        have hmem : ∀ v, (key, v) ∈ (name, w) :: entries ↔ (key, v) ∈ entries := by
          intro v
          rw [List.mem_cons, Prod.mk.injEq]
          exact or_iff_right fun h => heq h.1.symm
        simp only [hstep, hmem, Except.ok.injEq, exists_eq_left', ih hlater]

/-- The field has the value that the last source setting its key gives the key, or the built-in
one if no source sets the key. -/
def Taken (contents : List (Option (List (String × lib.Value)))) (key : String) (absent : α)
    (convert : String → lib.Value → Except Error α) (a : α) : Prop :=
  (∃ v, Chosen key contents v ∧ convert key v = .ok a) ∨ (Unset key contents ∧ a = absent)

/-- The last source that sets a key gives it a value that does not convert. -/
def Unusable (contents : List (Option (List (String × lib.Value)))) (key : String)
    (convert : String → lib.Value → Except Error α) : Prop :=
  ∃ v e, Chosen key contents v ∧ convert key v = .error e

theorem unset_iff : Unset key contents ↔ ∀ v, ¬ Chosen key contents v := by
  refine ⟨fun hunset v hv => hv.not_unset hunset, ?_⟩
  intro h
  rcases unset_or_chosen key contents with hunset | ⟨v, hv⟩
  · exact hunset
  · exact absurd hv (h v)

/-- **A field is taken from the chosen value of its key alone.** -/
theorem Reflects.foldlM_update_eq_ok_iff (h : Reflects lib contents l)
    (hlib : lib.Documented Found IsTable) :
    (lib.entries l).foldlM (lib.update key convert) absent = .ok a ↔
      Taken contents key absent convert a := by
  unfold Taken
  rw [Settings.foldlM_update_eq_ok_iff (hlib.nodup_entries l), unset_iff]
  simp only [h key]

theorem Reflects.chosen_unique (h : Reflects lib contents l)
    (hlib : lib.Documented Found IsTable) {v w : lib.Value} (hv : Chosen key contents v)
    (hw : Chosen key contents w) : v = w := by
  have heq := List.inj_on_of_nodup_map (hlib.nodup_entries l) ((h key v).mpr hv)
    ((h key w).mpr hw) rfl
  exact (Prod.mk.inj heq).2

/-- **A field can be taken unless the chosen value of its key does not convert.** -/
theorem Reflects.exists_taken_iff (h : Reflects lib contents l)
    (hlib : lib.Documented Found IsTable) (absent : α) :
    (∃ a, Taken contents key absent convert a) ↔ ¬ Unusable contents key convert := by
  refine ⟨?_, ?_⟩
  · rintro ⟨a, ⟨v, hv, hconvert⟩ | ⟨hunset, -⟩⟩ ⟨w, e, hw, herror⟩
    · rw [h.chosen_unique hlib hw hv, hconvert] at herror
      cases herror
    · exact hw.not_unset hunset
  · intro husable
    rcases unset_or_chosen key contents with hunset | ⟨v, hv⟩
    · exact ⟨absent, Or.inr ⟨hunset, rfl⟩⟩
    · cases hconvert : convert key v with
      | error e => exact absurd ⟨v, e, hv, hconvert⟩ husable
      | ok a => exact ⟨a, Or.inl ⟨v, hv, hconvert⟩⟩

end Fields

/-! ### The settings -/

section

variable {contents : List (Option (List (String × lib.Value)))}

/-- **Each field is taken on its own**, and then the settings are loaded. -/
theorem load_eq_ok_iff (hlib : lib.Documented Found IsTable)
    (h : List.Forall₂ (Source.Holds lib Found IsTable fs) srcs contents) {settings : Settings} :
    load lib fs srcs = .ok settings ↔
      Taken contents "ignore-case" false lib.toBool settings.ignoreCase ∧
      Taken contents "invert-match" false lib.toBool settings.invertMatch ∧
      Taken contents "with-filename" .auto lib.toFilenameMode settings.withFilename := by
  obtain ⟨l, hlayers, hl⟩ := exists_layers hlib h
  have hload : load lib fs srcs = (lib.entries l).foldlM lib.updateAll default := by
    unfold load
    rw [hlayers]
    rfl
  rw [hload, foldlM_updateAll_eq_ok_iff, hl.foldlM_update_eq_ok_iff hlib,
    hl.foldlM_update_eq_ok_iff hlib, hl.foldlM_update_eq_ok_iff hlib]
  rfl

/-- **Loading fails exactly if one of the fields cannot be taken.** -/
theorem exists_load_eq_error_iff (hlib : lib.Documented Found IsTable)
    (h : List.Forall₂ (Source.Holds lib Found IsTable fs) srcs contents) :
    (∃ e, load lib fs srcs = .error e) ↔
      Unusable contents "ignore-case" lib.toBool ∨ Unusable contents "invert-match" lib.toBool ∨
        Unusable contents "with-filename" lib.toFilenameMode := by
  obtain ⟨l, -, hl⟩ := exists_layers hlib h
  have hok : (∃ settings, load lib fs srcs = .ok settings) ↔
      ¬ Unusable contents "ignore-case" lib.toBool ∧
        ¬ Unusable contents "invert-match" lib.toBool ∧
          ¬ Unusable contents "with-filename" lib.toFilenameMode := by
    rw [← hl.exists_taken_iff hlib false, ← hl.exists_taken_iff hlib false,
      ← hl.exists_taken_iff hlib FilenameMode.auto]
    refine ⟨?_, ?_⟩
    · rintro ⟨settings, hload⟩
      obtain ⟨hignore, hinvert, hfilename⟩ := (load_eq_ok_iff hlib h).mp hload
      exact ⟨⟨_, hignore⟩, ⟨_, hinvert⟩, ⟨_, hfilename⟩⟩
    · rintro ⟨⟨ignoreCase, hignore⟩, ⟨invertMatch, hinvert⟩, ⟨withFilename, hfilename⟩⟩
      exact ⟨⟨ignoreCase, invertMatch, withFilename⟩,
        (load_eq_ok_iff hlib h).mpr ⟨hignore, hinvert, hfilename⟩⟩
  have hfails : (∃ e, load lib fs srcs = .error e) ↔
      ¬ ∃ settings, load lib fs srcs = .ok settings := by
    cases load lib fs srcs <;> simp
  rw [hfails, hok]
  tauto

end

end LineGlob.Settings
