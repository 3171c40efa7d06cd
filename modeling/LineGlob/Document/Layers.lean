/-
Documents laid over each other.

Each document changes what the documents before it have set.  A plain value replaces
whatever was there, and a table is merged into a table entry by entry.  A key may also be
a path, with dots and indices after the first name; then it changes a part of a value.

With every value the file is kept that it is from, so that a value that cannot be used
can be found.  A table has no single file that it is from.
-/
import LineGlob.Document.Reader

namespace LineGlob.Document

/-! ### Keys -/

/-- A step into a value. -/
inductive Step where
  | name (n : String)
  /-- An item of a list; a negative index counts from the end. -/
  | index (i : Int)
deriving DecidableEq, Repr

/-- The place of a value: a name, and the way into its value. -/
structure KeyPath where
  root : String
  steps : List Step
deriving DecidableEq, Repr

namespace KeyPath

open Reader

/-- Whether a character may stand in a name of a path. -/
def isNameChar (c : Char) : Bool :=
  c.isAlphanum || c == '_' || c == '-'

/-- Reads an index of 64 bits after its opening bracket. -/
def index : Reader Int := do
  let _ ← span (· == ' ')
  let negative ← accept ['-']
  let size : Int := Number.ofDigits 10 (← span1 Char.isDigit)
  let _ ← span (· == ' ')
  expect [']']
  let i := if negative then -size else size
  if Number.fits64 i then return i else failure

/-- Reads a path. -/
def reader : Reader KeyPath := do
  let root := String.ofList (← span1 isNameChar)
  let steps ← many do
    if ← accept ['.'] then
      return some (Step.name (String.ofList (← span1 isNameChar)))
    else if ← accept ['['] then
      return some (Step.index (← index))
    else
      return none
  return ⟨root, steps⟩

/-- The place that a key stands for.  A key that is no path is a name as a whole. -/
def ofKey (key : String) : KeyPath :=
  (reader.all? key.toList).getD ⟨key, []⟩

end KeyPath

/-! ### Merging -/

/-- A value laid over another one. -/
def merge (old new : Value) : Value :=
  match new with
  | .table entries =>
    let start : Table :=
      match old with
      | .table t => t
      | _ => []
    .table (entries.attach.foldl (fun t ⟨e, _⟩ =>
      Table.set e.1 (merge ((Table.get? t e.1).getD .null) e.2) t) start)
  | v => v
termination_by sizeOf new
decreasing_by
  have := List.sizeOf_lt_of_mem ‹e ∈ entries›
  cases e
  simp_all
  omega

/-- Changes the item of a list at an index.  A list that is too short is filled up with nothing. -/
def changeItem (change : Value → Value) (i : Int) (values : List Value) : List Value :=
  let padded (n : Nat) : List Value := List.replicate n .null
  if 0 ≤ i then
    let values := values ++ padded (i.toNat + 1 - values.length)
    values.modify i.toNat change
  else
    let fromEnd := i.natAbs
    if fromEnd ≤ values.length then
      values.modify (values.length - fromEnd) change
    else
      (padded (fromEnd - values.length) ++ values).modify 0 change

/-- Changes the part of a value to which steps lead.  What is in the way is replaced. -/
def changeAt (change : Value → Value) : List Step → Value → Value
  | [], v => change v
  | .name n :: steps, v =>
    let t : Table :=
      match v with
      | .table t => t
      | _ => []
    .table (Table.set n (changeAt change steps ((Table.get? t n).getD .null)) t)
  | .index i :: steps, v =>
    let values :=
      match v with
      | .list values => values
      | _ => []
    .list (changeItem (changeAt change steps) i values)

/-! ### Layers -/

/-- A value with the file that it is from. -/
structure Entry where
  value : Value
  origin : Option (List Char)

/-- The keys that all documents so far have set, each with its value. -/
structure Layers where
  entries : List (String × Entry)
  /-- A key has one value. -/
  nodup : (entries.map Prod.fst).Nodup

namespace Layers

/-- Nothing is set. -/
def bare : Layers := ⟨[], .nil⟩

/-- The entry of a key. -/
def get? (l : Layers) (key : String) : Option Entry :=
  List.lookup key l.entries

/-- A list of entries in which a key has a new entry. -/
def replace (key : String) (e : Entry) : List (String × Entry) → List (String × Entry)
  | [] => [(key, e)]
  | (n, d) :: l => if n = key then (n, e) :: l else (n, d) :: replace key e l

theorem mem_keys_replace {key name : String} {e : Entry} {l : List (String × Entry)} :
    name ∈ (replace key e l).map Prod.fst ↔ name = key ∨ name ∈ l.map Prod.fst := by
  induction l with
  | nil => simp [replace]
  | cons entry l ih =>
      obtain ⟨n, d⟩ := entry
      unfold replace
      split
      · rename_i heq
        simp [heq]
      · simp only [List.map_cons, List.mem_cons, ih]
        exact or_left_comm

theorem nodup_keys_replace (key : String) (e : Entry) {l : List (String × Entry)}
    (h : (l.map Prod.fst).Nodup) : ((replace key e l).map Prod.fst).Nodup := by
  induction l with
  | nil => simp [replace]
  | cons entry l ih =>
      obtain ⟨n, d⟩ := entry
      rw [List.map_cons, List.nodup_cons] at h
      unfold replace
      split
      · rw [List.map_cons, List.nodup_cons]
        exact h
      · rename_i hne
        rw [List.map_cons, List.nodup_cons, mem_keys_replace, not_or]
        exact ⟨⟨hne, h.1⟩, ih h.2⟩

/-- Sets the entry of a key. -/
def set (key : String) (e : Entry) (l : Layers) : Layers :=
  ⟨replace key e l.entries, nodup_keys_replace key e l.nodup⟩

/-- Whether two values are lists. -/
def bothLists : Value → Value → Bool
  | .list _, .list _ => true
  | _, _ => false

/-- Lays one value over what was set before. -/
def put (l : Layers) (key : String) (e : Entry) : Layers :=
  let path := KeyPath.ofKey key
  let old := (l.get? path.root).getD ⟨.null, none⟩
  let value := changeAt (merge · e.value) path.steps old.value
  let origin :=
    match value, path.steps with
    | .table _, _ => none
    | _, [] => e.origin
    -- a list that has been changed in part is still from its file
    | _, _ => if bothLists old.value value then old.origin else none
  l.set path.root ⟨value, origin⟩

/-- Lays the values of a document over what was set before. -/
def add (l : Layers) (t : List (String × Entry)) : Layers :=
  t.foldl (fun l (key, e) => l.put key e) l

end Layers

end LineGlob.Document
