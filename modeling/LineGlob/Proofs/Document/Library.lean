/-
The library with which the program is started is as documented.

What `Settings.Library.Documented` asks of a library is nearly all about files that are
laid over each other, and there it only concerns flat ones.  A key that has neither a dot
nor a bracket in it is a name, whether or not it could be read as a path
(`ofKey_of_plain`), and a value that is no table is not merged with the one that was
there.  So laying down a key of a flat file sets this key and nothing else
(`put_of_flat`), and a file does this key by key.
-/
import LineGlob.Document.Library
import LineGlob.Proofs.Settings.Library

namespace LineGlob

/-! ### Readers on texts that do not interest them -/

namespace Reader

theorem run_span (p : Char → Bool) (cs : List Char) :
    (span p).run cs = some (cs.takeWhile p, cs.dropWhile p) := by
  rfl

theorem run_span1 {p : Char → Bool} {cs : List Char} (h : cs.takeWhile p ≠ []) :
    (span1 p).run cs = some (cs.takeWhile p, cs.dropWhile p) := by
  unfold span1
  rw [StateT.run_bind, run_span, Option.bind_eq_bind, Option.bind_some]
  split
  · contradiction
  · rfl

theorem run_span1_of_nil {p : Char → Bool} {cs : List Char} (h : cs.takeWhile p = []) :
    (span1 p).run cs = none := by
  unfold span1
  rw [StateT.run_bind, run_span, Option.bind_eq_bind, Option.bind_some, h]
  rfl

theorem run_accept_of_notMem {c : Char} {cs : List Char} (h : c ∉ cs) :
    (accept [c]).run cs = some (false, cs) := by
  have hno : [c].isPrefixOf cs = false := by
    cases cs with
    | nil => rfl
    | cons d ds =>
        rw [List.mem_cons, not_or] at h
        show (c == d && _) = false
        rw [beq_false_of_ne h.1, Bool.false_and]
  have hstarts : (startsWith [c]).run cs = some (false, cs) := by
    rw [← hno]
    rfl
  unfold accept
  rw [StateT.run_bind, hstarts]
  rfl

theorem run_many_of_none {α : Type} {step : Reader (Option α)} {cs rest : List Char}
    (h : step.run cs = some (none, rest)) : (many step).run cs = some ([], rest) := by
  unfold many loop
  rw [StateT.run_bind, StateT.run_get]
  show (iterate _ _ _).run cs = _
  rw [iterate, StateT.run_bind, StateT.run_bind, h]
  rfl

end Reader

namespace Document

open Reader
open Settings (Plain Flat Sets Gives)

/-! ### Keys that are names -/

namespace KeyPath

theorem run_reader {cs : List Char} (hdot : '.' ∉ cs) (hbracket : '[' ∉ cs)
    (hname : cs.takeWhile isNameChar ≠ []) :
    reader.run cs =
      some (⟨String.ofList (cs.takeWhile isNameChar), []⟩, cs.dropWhile isNameChar) := by
  have hsub : cs.dropWhile isNameChar ⊆ cs := (List.dropWhile_suffix isNameChar).subset
  have hdot' : '.' ∉ cs.dropWhile isNameChar := fun hmem => hdot (hsub hmem)
  have hbracket' : '[' ∉ cs.dropWhile isNameChar := fun hmem => hbracket (hsub hmem)
  unfold reader
  simp only [StateT.run_bind, run_span1 hname, Option.bind_eq_bind, Option.bind_some]
  rw [@run_many_of_none Step _ (cs.dropWhile isNameChar) (cs.dropWhile isNameChar)]
  · rfl
  · rw [StateT.run_bind, run_accept_of_notMem hdot']
    show (do if ← accept ['['] then _ else _ : Reader (Option Step)).run _ = _
    rw [StateT.run_bind, run_accept_of_notMem hbracket']
    rfl

/-- **A plain key is a name as a whole**, whether or not it could be read as a path. -/
theorem ofKey_of_plain {key : String} (h : Plain key) : ofKey key = ⟨key, []⟩ := by
  obtain ⟨hdot, hbracket⟩ := h
  unfold ofKey all?
  simp only [StateT.run_bind]
  by_cases hname : key.toList.takeWhile isNameChar = []
  · unfold reader
    rw [StateT.run_bind, run_span1_of_nil hname]
    rfl
  · rw [run_reader hdot hbracket hname]
    -- What follows the name is refused, and then the key counts as it is.
    cases hrest : key.toList.dropWhile isNameChar with
    | nil =>
        have hwhole : key.toList.takeWhile isNameChar = key.toList := by
          have happend := List.takeWhile_append_dropWhile (p := isNameChar) (l := key.toList)
          rwa [hrest, List.append_nil] at happend
        rw [hwhole, String.ofList_toList]
        rfl
    | cons c rest => rfl

end KeyPath

/-! ### One document over others -/

/-- A value that is a table. -/
def IsTable (e : Entry) : Prop :=
  ∃ entries, e.value = .table entries

/-- There is a file of a name, and it can be read. -/
def HasFile (fs : FileSystem) (name : List Char) : Prop :=
  ∃ found, find fs name = .ok found

/-- A table is no truth value. -/
theorem IsTable.toBool_eq {e : Entry} (h : IsTable e) (key : String) :
    e.toBool key = .error (.notBoolean .table key e.origin) := by
  obtain ⟨entries, hvalue⟩ := h
  unfold Entry.toBool
  rw [hvalue]

/-- What is a truth value, or is none for another reason, is no table. -/
theorem not_isTable_of_toBool {e : Entry} {key : String} {use : Except Problem Bool}
    (h : e.toBool key = use)
    (huse : ∀ origin, use ≠ .error (.notBoolean .table key origin)) : ¬ IsTable e := by
  intro htable
  rw [htable.toBool_eq] at h
  exact huse e.origin h.symm

namespace Layers

variable {l : Layers} {t : List (String × Entry)} {key : String} {e : Entry}

theorem lookup_replace_self (key : String) (e : Entry) (entries : List (String × Entry)) :
    (replace key e entries).lookup key = some e := by
  induction entries with
  | nil => simp [replace]
  | cons entry entries ih =>
      obtain ⟨name, d⟩ := entry
      rw [replace]
      split
      · rename_i heq
        simp [heq]
      · rename_i hne
        rw [List.lookup_cons, beq_false_of_ne (Ne.symm hne)]
        exact ih

theorem lookup_replace_of_ne {key other : String} (h : other ≠ key) (e : Entry)
    (entries : List (String × Entry)) :
    (replace key e entries).lookup other = entries.lookup other := by
  have hno : (other == key) = false := beq_false_of_ne h
  induction entries with
  | nil => rw [replace, List.lookup_cons, hno]
  | cons entry entries ih =>
      obtain ⟨name, d⟩ := entry
      rw [replace]
      split
      · rename_i heq
        rw [List.lookup_cons, List.lookup_cons, heq, hno]
      · rw [List.lookup_cons, List.lookup_cons, ih]

theorem get?_set_self (l : Layers) (key : String) (e : Entry) : (l.set key e).get? key = some e :=
  lookup_replace_self key e l.entries

theorem get?_set_of_ne (l : Layers) {key other : String} (h : other ≠ key) (e : Entry) :
    (l.set key e).get? other = l.get? other :=
  lookup_replace_of_ne h e l.entries

/-- A key has the one entry that is found for it. -/
theorem mem_entries_iff : (key, e) ∈ l.entries ↔ l.get? key = some e := by
  obtain ⟨entries, hnodup⟩ := l
  unfold get?
  induction entries with
  | nil => simp
  | cons entry entries ih =>
      obtain ⟨name, d⟩ := entry
      rw [List.map_cons, List.nodup_cons] at hnodup
      rw [List.lookup_cons, List.mem_cons, Prod.mk.injEq]
      by_cases heq : key = name
      · subst heq
        have hnot : (key, e) ∉ entries := fun h =>
          hnodup.1 (List.mem_map.mpr ⟨(key, e), h, rfl⟩)
        simp [hnot, eq_comm]
      · rw [beq_false_of_ne heq]
        simp only [heq, false_and, false_or]
        exact ih hnodup.2

theorem merge_of_not_table {v : Value} (old : Value) (hv : ∀ entries, v ≠ .table entries) :
    merge old v = v := by
  cases v with
  | table entries => exact absurd rfl (hv entries)
  | _ => rw [merge]; exact hv

/-- **An entry under a name replaces what was there.** -/
theorem put_of_flat (l : Layers) (hkey : Plain key) (he : ¬ IsTable e) :
    l.put key e = l.set key e := by
  have hvalue : ∀ entries, e.value ≠ .table entries := fun entries h => he ⟨entries, h⟩
  unfold put
  rw [KeyPath.ofKey_of_plain hkey]
  simp only [changeAt, merge_of_not_table _ hvalue]

/-- **A flat document leaves alone what it does not set.** -/
theorem get?_add_of_not_sets (hflat : Flat IsTable t) (l : Layers) (h : ¬ Sets t key) :
    (l.add t).get? key = l.get? key := by
  induction t generalizing l with
  | nil => rfl
  | cons entry t ih =>
      obtain ⟨name, d⟩ := entry
      rw [Settings.sets_cons, not_or] at h
      obtain ⟨hne, hlater⟩ := h
      obtain ⟨hplain, hd⟩ := hflat (name, d) (by simp)
      have hrest := ih (fun entry hentry => hflat entry (by simp [hentry])) (l.put name d) hlater
      rw [put_of_flat l hplain hd, get?_set_of_ne l hne] at hrest
      rw [← hrest, ← put_of_flat l hplain hd]
      rfl

/-- **A flat document replaces what it sets.** -/
theorem get?_add_of_gives (hflat : Flat IsTable t) (l : Layers) (h : Gives t key e) :
    (l.add t).get? key = some e := by
  obtain ⟨before, after, rfl, hafter⟩ := h
  obtain ⟨hplain, he⟩ := hflat (key, e) (by simp)
  have hsplit : l.add (before ++ (key, e) :: after) = ((l.add before).put key e).add after := by
    unfold add
    rw [List.foldl_append, List.foldl_cons]
  rw [hsplit, get?_add_of_not_sets (fun entry hentry => hflat entry (by simp [hentry])) _ hafter,
    put_of_flat _ hplain he]
  exact get?_set_self _ key e

theorem mem_entries_add (hflat : Flat IsTable t) (l : Layers) (key : String) (e : Entry) :
    (key, e) ∈ (l.add t).entries ↔ Gives t key e ∨ ¬ Sets t key ∧ (key, e) ∈ l.entries := by
  rw [mem_entries_iff, mem_entries_iff]
  by_cases hsets : Sets t key
  · obtain ⟨d, hd⟩ := hsets.exists_gives
    rw [get?_add_of_gives hflat l hd]
    constructor
    · rintro ⟨⟩
      exact .inl hd
    · rintro (hgives | ⟨hnot, -⟩)
      · rw [← get?_add_of_gives hflat l hd, get?_add_of_gives hflat l hgives]
      · exact absurd hsets hnot
  · rw [get?_add_of_not_sets hflat l hsets]
    have hnot : ¬ Gives t key e := fun hgives => hsets hgives.sets
    simp [hnot, hsets]

end Layers

/-- **The library is as documented.** -/
theorem documented_library : library.Documented HasFile IsTable where
  read_of_not_found {fs name} h := by
    show (read fs name false).mapError Problem.error = .ok []
    unfold read
    cases hfind : find fs name with
    | error problem => rfl
    | ok found => exact absurd ⟨found, hfind⟩ h
  entries_bare := rfl
  nodup_entries l := l.nodup
  mem_entries_add hflat l key e := Layers.mem_entries_add hflat l key e

end Document

end LineGlob
