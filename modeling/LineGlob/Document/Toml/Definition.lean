/-
What may be defined in a TOML document.

Nothing may be defined twice.  A table is defined by its header, by the dotted keys of
one section, or by an inline table, and only in one of these ways; a header may still
come after the headers of tables inside it.  `Item` keeps how each table has been
defined for as long as the document is read.
-/
import LineGlob.Document.Value

namespace LineGlob.Toml

/-- How a table has been defined. -/
inductive Definition where
  /-- As the place of another one. -/
  | implicit
  | header
  | dotted
deriving DecidableEq, Repr

/-- What stands under a key while a document is read. -/
inductive Item where
  /-- A value, to which nothing can be added. -/
  | leaf (v : Value)
  | table (how : Definition) (entries : List (String × Item))
  /-- A list of tables with a header each, latest first. -/
  | tables (elements : List (List (String × Item)))

/-- What stands under the keys of a table. -/
abbrev Entries := List (String × Item)

namespace Item

/-- The value of an item. -/
def toValue : Item → Value
  | leaf v => v
  | table _ entries => .table (entries.attach.map fun ⟨e, _⟩ => (e.1, e.2.toValue))
  | tables elements =>
    .list (elements.reverse.attach.map fun ⟨entries, _⟩ =>
      .table (entries.attach.map fun ⟨e, _⟩ => (e.1, e.2.toValue)))
termination_by i => sizeOf i
decreasing_by
  · have := List.sizeOf_lt_of_mem ‹e ∈ entries›
    cases e
    simp_all
    omega
  · have h1 := List.sizeOf_lt_of_mem ‹e ∈ entries›
    have h2 := List.sizeOf_lt_of_mem (List.mem_reverse.1 ‹entries ∈ elements.reverse›)
    cases e
    simp_all
    omega

end Item

namespace Entries

/-- Puts an item under a key. -/
def put (k : String) (i : Item) : Entries → Entries
  | [] => [(k, i)]
  | (n, j) :: es => if n = k then (n, i) :: es else (n, j) :: put k i es

/-- Changes the entries of the table to which keys lead.  Tables on the way are made where they are
missing, and of a list of tables the latest is meant. -/
def under (change : Entries → Option Entries) : List String → Entries → Option Entries
  | [], es => change es
  | k :: ks, es =>
    match List.lookup k es with
    | none => (under change ks []).map fun sub => put k (.table .implicit sub) es
    | some (.table how sub) => (under change ks sub).map fun sub => put k (.table how sub) es
    | some (.tables (e :: earlier)) =>
      (under change ks e).map fun e => put k (.tables (e :: earlier)) es
    | some _ => none

/-- Defines a value.  A dotted key may add to a table that has no header of its own; a table in a
list of tables has one, but it may be passed on the way. -/
def define (v : Value) : List String → Entries → Option Entries
  | [], _ => none
  | [k], es =>
    match List.lookup k es with
    | none => some (put k (.leaf v) es)
    | some _ => none
  | k :: ks, es =>
    match List.lookup k es with
    | none => (define v ks []).map fun sub => put k (.table .dotted sub) es
    | some (.table .header _) => none
    | some (.table how sub) => (define v ks sub).map fun sub => put k (.table how sub) es
    | some (.tables (e :: earlier)) =>
      if ks.length = 1 then none
      else (define v ks e).map fun e => put k (.tables (e :: earlier)) es
    | some _ => none

/-- Defines a table by its header. -/
def openTable (k : String) (es : Entries) : Option Entries :=
  match List.lookup k es with
  | none => some (put k (.table .header []) es)
  | some (.table .implicit sub) => some (put k (.table .header sub) es)
  | some _ => none

/-- Adds a table to a list of tables. -/
def openElement (k : String) (es : Entries) : Option Entries :=
  match List.lookup k es with
  | none => some (put k (.tables [[]]) es)
  | some (.tables elements) => some (put k (.tables ([] :: elements)) es)
  | some _ => none

/-- The table of all entries. -/
def toTable (es : Entries) : Table :=
  es.map fun (k, i) => (k, i.toValue)

end Entries

end LineGlob.Toml
