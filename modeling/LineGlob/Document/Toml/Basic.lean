/-
Documents in TOML.

A document is a sequence of lines: a value for a key, or the header of a table that
the following lines belong to.
-/
import LineGlob.Document.Toml.Definition
import LineGlob.Document.Toml.Text
import LineGlob.Document.Toml.Word

namespace LineGlob.Toml

open Reader

/-! ### Values -/

/-- Reads the rest of an array, whose items may stand on lines of their own. -/
def array (item : Reader Value) : Reader Value :=
  loop (fun (done : List Value) => do
    skipLines
    if ← accept [']'] then
      return .inr (.list done.reverse)
    let done := (← item) :: done
    skipLines
    if ← accept [','] then
      return .inl done
    else
      expect [']']
      return .inr (.list done.reverse)) []

/-- Reads the rest of an inline table.  Between its tokens lines may end. -/
def inlineTable (item : Reader Value) : Reader Value :=
  loop (fun (es : Entries) => do
    skipLines
    if ← accept ['\x7d'] then
      return .inr (.table es.toTable)
    let k ← key
    skipLines
    expect ['=']
    skipLines
    let v ← item
    let es ← ofOption (es.define v k)
    skipLines
    if ← accept [','] then
      return .inl es
    else
      expect ['\x7d']
      return .inr (.table es.toTable)) []

/-- The number of arrays and inline tables around a value, at most. -/
def maxDepth : Nat := 80

/-- Reads a value with less than `depth` arrays and inline tables around it. -/
def value : Nat → Reader Value
  | 0 => failure
  | depth + 1 => do
    match ← peek? with
    | some '"' => return .text (← text '"')
    | some '\'' => return .text (← text '\'')
    | some '[' =>
      expect ['[']
      if depth = 0 then failure
      array (value depth)
    | some '\x7b' =>
      expect ['\x7b']
      if depth = 0 then failure
      inlineTable (value depth)
    | some 't' => expect "true".toList; return .bool true
    | some 'f' => expect "false".toList; return .bool false
    | _ => word

/-! ### Lines -/

/-- What has been read of a document: all entries, and the table that lines belong to. -/
structure Progress where
  entries : Entries
  current : List String

/-- Reads one line. -/
def line (p : Progress) : Reader Progress := do
  blanks
  if ← accept ['[', '['] then
    let k ← key
    expect [']', ']']
    endLine
    let last ← ofOption k.getLast?
    return ⟨← ofOption (p.entries.under (Entries.openElement last) k.dropLast), k⟩
  else if ← accept ['['] then
    let k ← key
    expect [']']
    endLine
    let last ← ofOption k.getLast?
    return ⟨← ofOption (p.entries.under (Entries.openTable last) k.dropLast), k⟩
  else
    match ← peek? with
    | none | some '#' | some '\n' | some '\r' =>
      endLine
      return p
    | _ =>
      let k ← key
      expect ['=']
      blanks
      let v ← value (maxDepth + 1)
      endLine
      return { p with entries := ← ofOption (p.entries.under (Entries.define v k) p.current) }

/-- The mark that some editors put in front of a text. -/
def byteOrderMark : Char := Char.ofNat 0xFEFF

/-- The table that a document is. -/
def document? (cs : List Char) : Option Table :=
  let whole : Reader Table := do
    let _ ← accept [byteOrderMark]
    loop (fun (p : Progress) => do
      if (← get).isEmpty then return .inr p.entries.toTable
      else return .inl (← line p)) ⟨[], []⟩
  whole.all? cs

end LineGlob.Toml
