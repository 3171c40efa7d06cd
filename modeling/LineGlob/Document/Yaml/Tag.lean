/-
Tags, anchors and directives in YAML.

A tag says what kind of value follows it, an anchor gives the value a name.  A tag is
written with a handle, for which a directive may have given another text; only the
tags of the format's own matter here, and all others stand for texts.
-/
import LineGlob.Document.Yaml.Cursor

namespace LineGlob.Yaml

/-- What a tag says of the word after it. -/
inductive Tag where
  /-- It has this kind of the format's own. -/
  | core (kind : List Char)
  /-- It is a text. -/
  | other
deriving DecidableEq, Repr

namespace Tag

open Reader

/-! ### Characters -/

/-- Whether a character may stand in the name of a handle or a directive. -/
def isNameChar (c : Char) : Bool :=
  c.isAlphanum || c == '_' || c == '-'

/-- Whether a character may stand in an address. -/
def isAddressChar (c : Char) : Bool :=
  isNameChar c || "#;/?:@&=+$,.!~*'()[]%".toList.contains c

/-- Whether a character may stand in what follows a handle. -/
def isSuffixChar (c : Char) : Bool :=
  isAddressChar c && !isFlowMark c && c != '!'

/-- Reads one byte of an escaped character. -/
def escapedByte : Reader Nat := do
  expect ['%']
  return Number.ofDigits 16 (← count 2 isHex)

/-- The number of bytes that a character takes, by its first one. -/
def width? (first : Nat) : Option Nat :=
  if first < 0x80 then some 1
  else if first < 0xC0 then none
  else if first < 0xE0 then some 2
  else if first < 0xF0 then some 3
  else if first < 0xF8 then some 4
  else none

/-- Reads an escaped character.  Its bytes are put after each other as they are, and what they
amount to has to be the code point of a character. -/
def escaped : Reader Char := do
  let first ← escapedByte
  let code ← loop (fun ((left : Nat), (code : Nat)) => do
    if left = 0 then return .inr code
    let byte ← escapedByte
    if 0x80 ≤ byte && byte < 0xC0 then return .inl (left - 1, code * 256 + byte)
    else failure) ((← ofOption (width? first)) - 1, first)
  if code < 0xD800 || (0xE000 ≤ code && code < 0x110000) then
    return Char.ofNat code
  else
    failure

/-- Reads characters of an address as long as they satisfy a condition. -/
def address (p : Char → Bool) : Reader (List Char) :=
  many do
    match ← peek? with
    | some c =>
      if !p c then return none
      else if c == '%' then return some (← escaped)
      else return some (← next)
    | none => return none

/-! ### Tags -/

/-- A tag as it is written. -/
structure Source where
  handle : List Char
  suffix : List Char
deriving DecidableEq, Repr

/-- Reads a handle, which starts with an exclamation mark and may end with another one. -/
def handle : Reader (List Char) := do
  expect ['!']
  let name ← span isNameChar
  if ← accept ['!'] then return '!' :: name ++ ['!'] else return '!' :: name

/-- Reads a tag: an address in angles, or a handle and what follows it.  What looks like a handle
but does not end with a mark is the start of what follows a single one. -/
def source : Reader Source := do
  if ← accept ['!', '<'] then
    let suffix ← address isAddressChar
    expect ['>']
    return ⟨[], suffix⟩
  else
    let h ← handle
    if h.length ≥ 2 && h.getLast? == some '!' then
      return ⟨h, ← address isSuffixChar⟩
    else
      match h.tail ++ (← address isSuffixChar) with
      | [] => return ⟨[], ['!']⟩
      | suffix => return ⟨['!'], suffix⟩

/-- The address that all tags of the format's own start with. -/
def coreAddress : List Char := "tag:yaml.org,2002:".toList

/-- What a tag says, given the texts of handles.  A handle between two marks has to have one, but
for the one of the format's own. -/
def Source.resolve? (t : Source) (handles : List (List Char × List Char)) : Option Tag :=
  match List.lookup t.handle handles with
  | some text => some (if text = coreAddress then .core t.suffix else .other)
  | none =>
    if t.handle = ['!', '!'] then some (.core t.suffix)
    else if t.handle.length ≥ 2 then none
    else some .other

/-! ### Anchors -/

/-- Whether a character may stand in the name of an anchor. -/
def isAnchorChar (c : Char) : Bool :=
  !(isBlank c || isBreak c || isFlowMark c || c.toNat = 0xFEFF)

/-- Reads the name of an anchor after its mark. -/
def anchor : Reader (List Char) := do
  let _ ← next
  span1 isAnchorChar

/-! ### Directives -/

/-- A directive in front of a document. -/
inductive Directive where
  | version
  /-- The text of a handle. -/
  | handle (handle text : List Char)
  | unknown
deriving DecidableEq, Repr

/-- Skips blanks. -/
def blanks : Reader Unit := do
  let _ ← span isBlank

/-- Reads one of the two numbers of a version. -/
def versionNumber : Reader Unit := do
  let digits ← span1 Char.isDigit
  if digits.length > 9 then failure

/-- Reads the address that a directive gives to a handle. -/
def handleText : Reader (List Char) := do
  match ← peek? with
  | some '!' =>
    let _ ← next
    return '!' :: (← address isAddressChar)
  | some c =>
    if isSuffixChar c then address isAddressChar else failure
  | none => failure

/-- Reads a directive. -/
def directive : Reader Directive := do
  expect ['%']
  let name ← span1 isNameChar
  unless endsWord (← peek?) do failure
  if name = "YAML".toList then
    blanks
    versionNumber
    expect ['.']
    versionNumber
    return .version
  else if name = "TAG".toList then
    blanks
    let h ← handle
    unless h = ['!'] || (h.length ≥ 2 && h.getLast? == some '!') do failure
    blanks
    let text ← handleText
    unless endsWord (← peek?) do failure
    return .handle h text
  else
    let _ ← span (!isBreak ·)
    return .unknown

end Tag

end LineGlob.Yaml
