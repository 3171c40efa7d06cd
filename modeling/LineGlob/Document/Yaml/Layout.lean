/-
How a YAML document is laid out in tokens.

The columns at which lists and mappings start make up levels, and a line that starts
further left ends the levels that it does not reach.  A word is known for a key only
when a colon follows it, so the places where a key may have started are remembered, and
the token for the key is put in later.

After a colon or a hyphen there is a level one column further right, where nothing has
been opened yet: what belongs to the key or the item has to reach it.
-/
import LineGlob.Document.Yaml.BlockText
import LineGlob.Document.Yaml.Token
import LineGlob.Document.Yaml.Word

namespace LineGlob.Yaml

/-- A level of indentation. -/
structure Level where
  /-- The column of the level around it. -/
  outer : Int
  /-- Whether a list or a mapping has been opened here, which ends with the level. -/
  opened : Bool
deriving Repr

/-- The level that a column belongs to, given the current one: its column, the levels around it,
and how many lists and mappings end before it. -/
def Level.reach (column : Int) : Int → List Level → Int × List Level × Nat
  | indent, [] => (indent, [], 0)
  | indent, l :: ls =>
    if indent ≤ column then
      (indent, l :: ls, 0)
    else
      let (indent, ls, ends) := reach column l.outer ls
      (indent, ls, if l.opened then ends + 1 else ends)

/-- A place where a key may have started. -/
structure Candidate where
  /-- How many tokens are before it. -/
  token : Nat
  line : Nat
  column : Nat
  offset : Nat
  /-- Whether it has to be a key, since it stands where the keys of its mapping start. -/
  required : Bool
deriving Repr

/-- How far a document has been laid out. -/
structure Layout where
  cursor : Cursor
  tokens : Array Token := #[]
  /-- The column of the current level. -/
  indent : Int := -1
  /-- The levels that have not ended, latest first. -/
  levels : List Level := []
  /-- Whether a key may start here. -/
  keyAllowed : Bool := true
  /-- Where a key may have started in the brackets around the place, innermost first, and last
  outside of brackets. -/
  candidates : List (Option Candidate) := [none]
  /-- Where in brackets a colon need not be followed by a blank. -/
  adjacent : Nat := 0
  /-- Whether a mapping has been opened in brackets, so that a key needs no mapping of its own. -/
  inMapping : Bool := false
  /-- For the lists in brackets around the place, innermost first, whether a key in them has been
  given a mapping of its own that has not ended. -/
  pairs : List Bool := []
  /-- Whether the last token is a tag or an anchor at the start of a line. -/
  labelled : Bool := false

/-- The number of brackets that may stand around a place. -/
def maxBrackets : Nat := 255

/-- The number of characters that a key outside of brackets may have. -/
def maxKeyLength : Nat := 1024

namespace Layout

/-- Whether there are brackets around the place. -/
def inFlow (l : Layout) : Bool := 1 < l.candidates.length

/-- Puts a token last. -/
def push (t : Token) (l : Layout) : Layout :=
  { l with tokens := l.tokens.push t, labelled := false }

/-- Puts a token after the first `n` ones. -/
def insert (n : Nat) (t : Token) (l : Layout) : Layout :=
  { l with tokens := (l.tokens.extract 0 n).push t ++ l.tokens.extract n l.tokens.size }

/-- Ends the levels that a column does not reach. -/
def reach (column : Int) (l : Layout) : Layout :=
  if l.inFlow then l
  else
    let (indent, levels, ends) := Level.reach column l.indent l.levels
    (List.replicate ends Token.closeBlock).foldl (fun l t => l.push t) { l with indent, levels }

/-- Leaves the levels at which nothing has been opened. -/
def leaveUnopened (l : Layout) : Layout :=
  go l.indent l.levels
where
  go (indent : Int) : List Level → Layout
    | [] => { l with indent, levels := [] }
    | level :: levels =>
      if level.opened then { l with indent, levels := level :: levels } else go level.outer levels

/-- Adds a level one column further right, unless nothing has been opened at the current one. -/
def indentByOne (l : Layout) : Layout :=
  if !l.inFlow && l.levels.head?.any (·.opened) then
    { l with levels := ⟨l.indent, false⟩ :: l.levels, indent := l.indent + 1 }
  else l

/-- Opens a list or a mapping at a column, unless it has been opened already.  Its token comes
after the first `n` ones. -/
def openAt (column : Int) (n : Nat) (t : Token) (l : Layout) : Layout :=
  if l.inFlow then l
  else
    let l :=
      match l.levels with
      | level :: levels =>
        if l.indent ≤ column && !level.opened then { l with indent := level.outer, levels }
        else l
      | [] => l
    if l.indent < column then
      { l with levels := ⟨l.indent, true⟩ :: l.levels, indent := column }.insert n t
    else l

/-- Replaces what is known of a key in the innermost brackets. -/
def setCandidate (c : Option Candidate) (l : Layout) : Layout :=
  { l with candidates := c :: l.candidates.tail }

/-- What is known of a key in the innermost brackets. -/
def candidate? (l : Layout) : Option Candidate :=
  l.candidates.head?.join

/-- Remembers that a key may start here. -/
def markCandidate (l : Layout) : Layout :=
  if l.keyAllowed then
    let required :=
      !l.inFlow && l.indent = l.cursor.column && l.levels.head?.any (·.opened)
    let c := l.cursor
    l.setCandidate (some ⟨l.tokens.size, c.line, c.column, c.offset, required⟩)
  else l

/-- Gives up what may have been a key, which must not have to be one. -/
def dropCandidate? (l : Layout) : Option Layout :=
  if l.candidate?.any (·.required) then none else some (l.setCandidate none)

/-- Gives up what can be a key no more: outside of brackets a key stands on one line, and it is not
too long. -/
def dropStale? (l : Layout) : Option Layout :=
  match l.candidate? with
  | some c =>
    if !l.inFlow && (c.line < l.cursor.line || c.offset + maxKeyLength < l.cursor.offset) then
      l.dropCandidate?
    else some l
  | none => some l

/-- Ends the mapping of its own that a key in a list has been given. -/
def endPair (l : Layout) : Layout :=
  match l.pairs with
  | true :: pairs => { l with pairs := false :: pairs, inMapping := false }.push .closeMapping
  | _ => l

end Layout

/-! ### Reading tokens -/

/-- A step of laying a document out. -/
abbrev LayoutM := StateT Layout Option

namespace LayoutM

/-- Scans from the place reached so far. -/
def scan {α : Type} (s : Scan α) : LayoutM α := do
  let l ← get
  match s.run l.cursor with
  | some (a, cursor) =>
    set { l with cursor }
    return a
  | none => failure

/-- Changes the layout in a way that may be refused. -/
def change (f : Layout → Option Layout) : LayoutM Unit := do
  match f (← get) with
  | some l => set l
  | none => failure

/-- Puts a token last. -/
def push (t : Token) : LayoutM Unit :=
  modify (·.push t)

/-- Sets whether a key may start here. -/
def allowKey (keyAllowed : Bool) : LayoutM Unit :=
  modify fun l => { l with keyAllowed }

/-- Skips what is between tokens.  Where a line would be indented with a tab, it has to be empty. -/
def skipToToken : LayoutM Unit := do
  iterate (fun () => do
    let l ← get
    match l.cursor.rest.head? with
    | some '\t' =>
      if !l.levels.isEmpty && l.cursor.leading && l.cursor.column < l.indent then
        scan do
          let _ ← Scan.gap
          Scan.atLineEnd
      else
        scan Scan.skipBlank
      return .inl ()
    | some ' ' =>
      scan Scan.skipBlank
      return .inl ()
    | some '#' =>
      scan Scan.skipLine
      return .inl ()
    | some c =>
      if isBreak c then
        scan Scan.newLine
        unless l.inFlow do allowKey true
        return .inl ()
      else
        return .inr ()
    | none => return .inr ()) ((← get).cursor.rest.length + 1) ()

/-- Ends the document's levels before a directive or a line that divides documents. -/
def endLevels : LayoutM Unit := do
  modify (·.reach (-1))
  change (·.dropCandidate?)
  allowKey false

/-- Reads a directive. -/
def directive : LayoutM Unit := do
  endLevels
  push (.directive (← scan do
    let d ← Scan.onLine Tag.directive
    let _ ← Scan.gap
    Scan.atLineEnd
    Scan.newLine
    return d))

/-- Reads a line that divides documents. -/
def division (isEnd : Bool) : LayoutM Unit := do
  endLevels
  scan (Scan.skip 3)
  push (if isEnd then .documentEnd else .documentStart)
  if isEnd then
    scan do
      let _ ← Scan.gap
      Scan.atLineEnd

/-- Reads an opening bracket. -/
def opening (isMapping : Bool) : LayoutM Unit := do
  modify (·.markCandidate)
  modify (·.indentByOne)
  let l ← get
  if maxBrackets < l.candidates.length then failure
  set (if isMapping then { l with candidates := none :: l.candidates, inMapping := true }
    else { l with candidates := none :: l.candidates, pairs := false :: l.pairs })
  allowKey true
  scan do
    Scan.skip 1
    let _ ← Scan.gap
  push (if isMapping then .openMapping else .openList)

/-- Reads a closing bracket.  In the brackets around it, it may be the end of a key, and then a
colon may follow at once. -/
def closing (isMapping : Bool) : LayoutM Unit := do
  change (·.dropCandidate?)
  modify fun l => if l.inFlow then { l with candidates := l.candidates.tail } else l
  allowKey false
  unless isMapping do
    modify (·.endPair)
    modify fun l => { l with pairs := l.pairs.tail }
  scan do
    Scan.skip 1
    let _ ← Scan.gap
  modify fun l => if l.inFlow then { l with adjacent := l.cursor.offset } else l
  push (if isMapping then .closeMapping else .closeList)

/-- Reads a comma in brackets. -/
def comma : LayoutM Unit := do
  change (·.dropCandidate?)
  allowKey true
  modify (·.endPair)
  scan do
    Scan.skip 1
    let _ ← Scan.gap
  push .comma

/-- Reads the hyphen before an item.  A hyphen after it must not be set apart by tabs alone. -/
def item : LayoutM Unit := do
  let l ← get
  if l.inFlow || !l.keyAllowed then failure
  if l.labelled && l.cursor.column = 0 && 0 ≤ l.indent then failure
  scan (Scan.skip 1)
  modify fun m => m.openAt l.cursor.column m.tokens.size .openBlockList
  let g ← scan Scan.gap
  let here := (← get).cursor.rest
  if g.hasTab && here.head? == some '-' && endsWord here[1]? then failure
  if here.head?.any fun c => isBreak c || isFlowMark c then modify (·.indentByOne)
  change (·.dropCandidate?)
  allowKey true
  push .item

/-- Reads the question mark before a key. -/
def key : LayoutM Unit := do
  let l ← get
  if l.inFlow then
    set { l with inMapping := true }
  else
    unless l.keyAllowed do failure
    set (l.openAt l.cursor.column l.tokens.size .openBlockMapping)
  change (·.dropCandidate?)
  allowKey !l.inFlow
  scan do
    Scan.skip 1
    -- tabs are no blanks here
    if (← Scan.peek?).isNone || (← Scan.peek?) == some '\t' then failure
    iterate (fun () => do
      match ← Scan.peek? with
      | some ' ' =>
        Scan.skipBlank
        return .inl ()
      | some '#' =>
        Scan.skipLine
        return .inl ()
      | some c =>
        if isBreak c then
          Scan.newLine
          return .inl ()
        else
          return .inr ()
      | none => return .inr ()) (l.cursor.rest.length + 1) ()
    if (← Scan.peek?) == some '\t' then failure
  push .key

/-- Reads the colon between a key and its value.  In a list in brackets the key gets a mapping of
its own. -/
def colon : LayoutM Unit := do
  let l ← get
  let start := l.cursor
  let isPair := !l.pairs.isEmpty && !l.inMapping
  if isPair then
    set { l with pairs := true :: l.pairs.tail }
  scan do
    Scan.skip 1
    if (← Scan.peek?) == some '\t' then
      let g ← Scan.gap
      if !g.hasSpace && (← Scan.peek?).any (fun c => c == '-' || c.isAlphanum) then failure
  match l.candidate? with
  | some c =>
    modify (·.insert c.token .key)
    if isPair then
      if c.line < start.line then failure
      modify (·.insert c.token .openMapping)
    modify (·.openAt c.column c.token .openBlockMapping)
    modify (·.indentByOne)
    modify (·.setCandidate none)
    allowKey false
  | none =>
    if isPair then push .openMapping
    unless l.inFlow do
      unless l.keyAllowed do failure
      modify fun m => m.openAt start.column m.tokens.size .openBlockMapping
    modify (·.indentByOne)
    allowKey !l.inFlow
  push .value

/-- Reads an anchor or a reference to one. -/
def anchor (isReference : Bool) : LayoutM Unit := do
  modify (·.markCandidate)
  allowKey false
  let atStart := (← get).cursor.column = 0
  let name ← scan (Scan.onLine Tag.anchor)
  push (if isReference then .reference name else .anchor name)
  modify fun l => { l with labelled := atStart && !isReference }

/-- Reads a tag. -/
def tag : LayoutM Unit := do
  modify (·.markCandidate)
  allowKey false
  let atStart := (← get).cursor.column = 0
  let t ← scan (Scan.onLine Tag.source)
  let next ← scan Scan.peek?
  unless endsWord next || ((← get).inFlow && next.any isFlowMark) do failure
  push (.tag t)
  modify fun l => { l with labelled := atStart }

/-- Reads a text of whole lines. -/
def blockText : LayoutM Unit := do
  modify (·.markCandidate)
  allowKey true
  modify (·.leaveUnopened)
  let text ← scan (BlockText.text (← get).indent)
  push (.scalar false text)

/-- Reads a word in marks.  What may follow it on its line is a colon, a comment, or in brackets
what separates or closes. -/
def quoted (double : Bool) : LayoutM Unit := do
  modify (·.markCandidate)
  allowKey false
  let l ← get
  let text ← scan (Quoted.word double l.indent)
  let _ ← scan Scan.gap
  let here := (← get).cursor
  unless endsLine here.rest.head? do
    match here.rest.head? with
    | some ':' => unless l.inFlow || l.cursor.line = here.line do failure
    | some ',' | some ']' | some '\x7d' => unless l.inFlow do failure
    | _ => failure
  skipToToken
  modify fun l => { l with adjacent := l.cursor.offset }
  push (.scalar false text)

/-- Reads a word without marks. -/
def plain : LayoutM Unit := do
  modify (·.markCandidate)
  allowKey false
  modify (·.leaveUnopened)
  let l ← get
  let text ← scan (Plain.word l.inFlow (l.indent + 1))
  if (← get).cursor.leading then allowKey true
  push (.scalar true text)

/-- Reads the next token, and tells whether there was one. -/
def token : LayoutM Bool := do
  skipToToken
  change (·.dropStale?)
  modify fun l => l.reach l.cursor.column
  let l ← get
  match l.cursor.rest with
  | [] =>
    change (·.dropCandidate?)
    modify (·.reach (-1))
    return false
  | c :: rest =>
    if l.cursor.column = 0 && c == '%' then directive
    else if l.cursor.isMarker '-' then division false
    else if l.cursor.isMarker '.' then division true
    else if l.cursor.column < l.indent then failure
    else
      let isApart := endsWord rest.head?
      match c with
      | '[' => opening false
      | '\x7b' => opening true
      | ']' => closing false
      | '\x7d' => closing true
      | ',' => comma
      | '*' => anchor true
      | '&' => anchor false
      | '!' => tag
      | '\'' => quoted false
      | '"' => quoted true
      | '%' | '@' | '\x60' => failure
      | '-' => if isApart then item else plain
      | '?' => if isApart then key else plain
      | ':' =>
        if isApart || (l.inFlow && (rest.head?.any isFlowMark || l.cursor.offset = l.adjacent))
        then colon
        else plain
      | '|' | '>' => if l.inFlow then plain else blockText
      | _ => plain
    return true

end LayoutM

/-- The tokens of a text. -/
def Token.ofText? (cs : List Char) : Option (List Token) :=
  let cursor := Cursor.ofText cs
  let all : LayoutM Unit :=
    iterate (fun () => do
      if ← LayoutM.token then return .inl () else return .inr ()) (cursor.rest.length + 1) ()
  (all.run { cursor }).map fun (_, l) => l.tokens.toList

end LineGlob.Yaml
