/-
What is relied on of a library.

How a library reads settings files is its own affair, and little of it matters to the
program.  `Library.Documented` lists what does: a file that need not exist may be
missing, a key has one value, and a file that is laid over others replaces the values of
the keys that it sets and leaves the other keys alone.  The last of these is asked for
flat files only, whose keys are names and whose values are no tables; in any other file a
key may reach into a value, and a table is merged with what was there.

Over several files the last one that sets a key decides.  Some sources have no file, so a
run of sources is described by what each of them has, if anything.  `Chosen` picks the
value of a key from such a description, one key at a time, and `Unset` says that there is
none to pick; which of the two holds of a key does not depend on any other key.
-/
import LineGlob.Settings.Load

namespace LineGlob.Settings

/-! ### One file -/

section File

variable {V : Type} {t : List (String × V)} {key : String} {v : V}

/-- A key that leads into no value: it has neither a dot nor an index. -/
def Plain (key : String) : Prop :=
  '.' ∉ key.toList ∧ '[' ∉ key.toList

instance (key : String) : Decidable (Plain key) :=
  inferInstanceAs (Decidable (_ ∧ _))

/-- A file whose keys are names and whose values are no tables. -/
def Flat (IsTable : V → Prop) (t : List (String × V)) : Prop :=
  ∀ entry ∈ t, Plain entry.1 ∧ ¬ IsTable entry.2

/-- The file lists the key. -/
def Sets (t : List (String × V)) (key : String) : Prop :=
  key ∈ t.map Prod.fst

/-- The file gives the key this value: it lists the two together, and does not list the key again
later on. -/
def Gives (t : List (String × V)) (key : String) (v : V) : Prop :=
  ∃ before after, t = before ++ (key, v) :: after ∧ ¬ Sets after key

theorem not_sets_nil (key : String) : ¬ Sets ([] : List (String × V)) key := by
  simp [Sets]

theorem sets_cons {entry : String × V} : Sets (entry :: t) key ↔ key = entry.1 ∨ Sets t key := by
  simp [Sets]

theorem Gives.cons (h : Gives t key v) (entry : String × V) : Gives (entry :: t) key v := by
  obtain ⟨before, after, rfl, hafter⟩ := h
  exact ⟨entry :: before, after, rfl, hafter⟩

theorem Gives.sets (h : Gives t key v) : Sets t key := by
  obtain ⟨before, after, rfl, -⟩ := h
  simp [Sets]

/-- **A file gives a value to every key that it sets.** -/
theorem Sets.exists_gives (h : Sets t key) : ∃ v, Gives t key v := by
  induction t with
  | nil => exact absurd h (not_sets_nil key)
  | cons entry t ih =>
      by_cases hlater : Sets t key
      · obtain ⟨v, hv⟩ := ih hlater
        exact ⟨v, hv.cons entry⟩
      · obtain ⟨name, v⟩ := entry
        rcases sets_cons.mp h with rfl | hsets
        · exact ⟨v, [], t, rfl, hlater⟩
        · exact absurd hsets hlater

end File

/-! ### The library -/

/-- What is documented about a library, told by which names it finds a file for and by which values
are tables. -/
structure Library.Documented (lib : Library) (Found : FileSystem → List Char → Prop)
    (IsTable : lib.Value → Prop) : Prop where
  /-- A file that need not exist and is not found sets nothing. -/
  read_of_not_found : ∀ {fs name}, ¬ Found fs name → lib.read fs name false = .ok []
  /-- Before any file has been added nothing is set. -/
  entries_bare : lib.entries lib.bare = []
  /-- A key that is set has one value. -/
  nodup_entries : ∀ l, ((lib.entries l).map Prod.fst).Nodup
  /-- A flat file replaces the values of the keys that it sets, and of no others. -/
  mem_entries_add : ∀ {t}, Flat IsTable t → ∀ l key v, (key, v) ∈ lib.entries (lib.add l t) ↔
    Gives t key v ∨ ¬ Sets t key ∧ (key, v) ∈ lib.entries l

/-! ### Several sources, with or without a file -/

section Sources

variable {V : Type} {contents : List (Option (List (String × V)))} {key : String} {v : V}

/-- No source sets the key. -/
def Unset (key : String) (contents : List (Option (List (String × V)))) : Prop :=
  ∀ t, some t ∈ contents → ¬ Sets t key

/-- The last source that sets the key gives it this value. -/
def Chosen (key : String) (contents : List (Option (List (String × V)))) (v : V) : Prop :=
  ∃ before t after, contents = before ++ some t :: after ∧ Gives t key v ∧ Unset key after

theorem unset_nil (key : String) : Unset key ([] : List (Option (List (String × V)))) := by
  intro t ht
  simp at ht

theorem not_chosen_nil (key : String) (v : V) : ¬ Chosen key [] v := by
  intro h
  obtain ⟨before, t, after, heq, -, -⟩ := h
  simp at heq

theorem unset_cons {content : Option (List (String × V))} :
    Unset key (content :: contents) ↔
      (∀ t, content = some t → ¬ Sets t key) ∧ Unset key contents := by
  unfold Unset
  simp only [List.mem_cons, or_imp, forall_and, eq_comm]

theorem Chosen.cons (h : Chosen key contents v) (content : Option (List (String × V))) :
    Chosen key (content :: contents) v := by
  obtain ⟨before, t, after, rfl, hgives, hafter⟩ := h
  exact ⟨content :: before, t, after, rfl, hgives, hafter⟩

/-- The last source that sets the key is the first one of all, or comes later. -/
theorem chosen_cons {content : Option (List (String × V))} :
    Chosen key (content :: contents) v ↔
      (∃ t, content = some t ∧ Gives t key v ∧ Unset key contents) ∨ Chosen key contents v := by
  refine ⟨?_, ?_⟩
  · intro h
    obtain ⟨before, t, after, heq, hgives, hafter⟩ := h
    cases before with
    | nil =>
        rw [List.nil_append, List.cons.injEq] at heq
        obtain ⟨rfl, rfl⟩ := heq
        exact Or.inl ⟨t, rfl, hgives, hafter⟩
    | cons first before =>
        rw [List.cons_append, List.cons.injEq] at heq
        exact Or.inr ⟨before, t, after, heq.2, hgives, hafter⟩
  · intro h
    rcases h with ⟨t, rfl, hgives, hafter⟩ | hlater
    · exact ⟨[], t, contents, rfl, hgives, hafter⟩
    · exact hlater.cons content

/-- **Every key is set last by some source, or by none.** -/
theorem unset_or_chosen (key : String) (contents : List (Option (List (String × V)))) :
    Unset key contents ∨ ∃ v, Chosen key contents v := by
  induction contents with
  | nil => exact Or.inl (unset_nil key)
  | cons content contents ih =>
      rcases ih with hunset | ⟨v, hv⟩
      · cases content with
        | none => exact Or.inl (unset_cons.mpr ⟨by simp, hunset⟩)
        | some t =>
            by_cases hsets : Sets t key
            · obtain ⟨v, hv⟩ := hsets.exists_gives
              exact Or.inr ⟨v, chosen_cons.mpr (Or.inl ⟨t, rfl, hv, hunset⟩)⟩
            · refine Or.inl (unset_cons.mpr ⟨?_, hunset⟩)
              rintro _ ⟨rfl⟩
              exact hsets
      · exact Or.inr ⟨v, hv.cons content⟩

/-- No source sets a key that one of them sets last. -/
theorem Chosen.not_unset (h : Chosen key contents v) : ¬ Unset key contents := by
  intro hunset
  obtain ⟨before, t, after, rfl, hgives, -⟩ := h
  exact hunset t (by simp) hgives.sets

end Sources

end LineGlob.Settings
