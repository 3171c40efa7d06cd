/-
The nodes of a YAML document.

Tokens make up a tree of scalars, lists and mappings, and a node with an anchor may
stand in it more than once.  Where a node is missing, there is nothing.
-/
import LineGlob.Document.Yaml.Layout
import LineGlob.Document.Yaml.Scalar

namespace LineGlob.Yaml

/-- A node. -/
inductive Node where
  | scalar (s : Scalar)
  | sequence (items : List Node)
  /-- Keys and values in turn. -/
  | mapping (members : List Node)
deriving Repr, Inhabited

namespace Node

/-- A node that is missing. -/
def missing : Node := .scalar .null

/-- Whether a node is a scalar that cannot be used. -/
def isUnusable : Node → Bool
  | scalar .unusable => true
  | _ => false

/-- The scalars among the keys of a mapping.  A key that cannot be used is passed over, so that the
value after it is the key. -/
def scalarKeys : List Node → List Scalar
  | [] => []
  | k :: rest =>
    if k.isUnusable then scalarKeys rest
    else
      match k, rest with
      | scalar s, _ :: rest => s :: scalarKeys rest
      | _, _ :: rest => scalarKeys rest
      | _, [] => []

/-- The name that a node is as a key. -/
def toName? : Node → Option String
  | scalar s => s.toName?
  | _ => none

mutual

/-- The value of a node. -/
def toValue? : Node → Option Value
  | scalar s => s.toValue?
  | sequence items => (toValues? items).map .list
  | mapping members => (toEntries? members).map fun entries =>
    .table (entries.foldl (fun t (name, v) => Table.set name v t) [])

/-- The values of nodes. -/
def toValues? : List Node → Option (List Value)
  | [] => some []
  | n :: ns => do return (← n.toValue?) :: (← toValues? ns)

/-- The names and values of keys and values in turn.  Of keys with the same name the last one will
count. -/
def toEntries? : List Node → Option (List (String × Value))
  | [] => some []
  | k :: rest =>
    if k.isUnusable then toEntries? rest
    else
      match rest with
      | [] => some []
      | v :: rest => do
        let name ← k.toName?
        let value ← v.toValue?
        return (name, value) :: (← toEntries? rest)

end

end Node

/-! ### Reading nodes -/

/-- How far the tokens of a document have been read. -/
structure Progress where
  tokens : List Token
  /-- The texts that directives have given to handles. -/
  handles : List (List Char × List Char) := []
  /-- The anchors, latest first, with their nodes as soon as these have been read. -/
  anchors : List (List Char × Option Node) := []

/-- A way to read something off tokens. -/
abbrev NodeReader := StateT Progress Option

namespace NodeReader

/-- The next token, which is left where it is. -/
def peek? : NodeReader (Option Token) := do
  return (← get).tokens.head?

/-- Takes the next token. -/
def drop : NodeReader Unit :=
  modify fun p => { p with tokens := p.tokens.tail }

/-- Takes a token if it comes next, and tells whether it does. -/
def accept (t : Token) : NodeReader Bool := do
  if (← peek?) == some t then
    drop
    return true
  else
    return false

/-- Repeats a step that changes a state until it says that it is done. -/
def loop {σ β : Type} (step : σ → NodeReader (σ ⊕ β)) (start : σ) : NodeReader β := do
  iterate step ((← get).tokens.length + 1) start

/-- Reads a node unless one of the given tokens comes next, where it is missing. -/
def unlessAt (ends : List Token) (node : NodeReader Node) : NodeReader Node := do
  if (← peek?).any ends.contains then return .missing else node

/-- Reads what follows a key: a value after its token, or nothing. -/
def valueOf (ends : List Token) (node : NodeReader Node) : NodeReader Node := do
  if ← accept .value then unlessAt ends node else return .missing

/-- A mapping.  No two of its keys may be the same. -/
def mappingOf (members : List Node) : NodeReader Node := do
  if (Node.scalarKeys members).Nodup then return .mapping members else failure

/-! #### Lists and mappings told by indentation -/

/-- Reads the items of a list up to its end. -/
def blockItems (node : NodeReader Node) : NodeReader Node :=
  loop (fun (done : List Node) => do
    if ← accept .closeBlock then
      return .inr (.sequence done.reverse)
    else if ← accept .item then
      return .inl ((← unlessAt [.item, .closeBlock] node) :: done)
    else
      failure) []

/-- Reads the items of a list that are indented like the key that they belong to. -/
def unindentedItems (node : NodeReader Node) : NodeReader Node :=
  loop (fun (done : List Node) => do
    if ← accept .item then
      return .inl ((← unlessAt [.item, .key, .value, .closeBlock] node) :: done)
    else
      return .inr (.sequence done.reverse)) []

/-- Reads the keys and values of a mapping up to its end. -/
def blockMembers (node : NodeReader Node) : NodeReader Node :=
  let ends : List Token := [.key, .value, .closeBlock]
  loop (fun (done : List Node) => do
    if ← accept .closeBlock then
      return .inr (← mappingOf done.reverse)
    let k ←
      if ← accept .key then unlessAt ends node
      else if (← peek?) == some .value then pure .missing
      else failure
    let v ← valueOf ends node
    return .inl (v :: k :: done)) []

/-! #### Lists and mappings in brackets -/

/-- Takes the comma that has to stand before all entries but the first. -/
def separated (isFirst : Bool) : NodeReader Unit := do
  if isFirst then return
  if ← accept .comma then return
  failure

/-- Reads a key and its value in a list. -/
def pair (node : NodeReader Node) : NodeReader Node := do
  let k ←
    if (← peek?).any [Token.value, .comma, .closeList].contains then
      drop
      pure .missing
    else
      node
  mappingOf [k, ← valueOf [.comma, .closeList] node]

/-- Reads the items of a list up to its closing bracket. -/
def flowItems (node : NodeReader Node) : NodeReader Node :=
  loop (fun (done : List Node) => do
    if ← accept .closeList then
      return .inr (.sequence done.reverse)
    separated done.isEmpty
    if ← accept .closeList then
      return .inr (.sequence done.reverse)
    else if ← accept .key then
      return .inl ((← pair node) :: done)
    else
      return .inl ((← node) :: done)) []

/-- Reads the keys and values of a mapping up to its closing bracket. -/
def flowMembers (node : NodeReader Node) : NodeReader Node :=
  let ends : List Token := [.comma, .closeMapping]
  loop (fun (done : List Node) => do
    if ← accept .closeMapping then
      return .inr (← mappingOf done.reverse)
    separated done.isEmpty
    if ← accept .closeMapping then
      return .inr (← mappingOf done.reverse)
    else if ← accept .key then
      let k ← unlessAt (.value :: ends) node
      let v ← valueOf ends node
      return .inl (v :: k :: done)
    else if (← peek?) == some .value then
      let v ← valueOf ends node
      return .inl (v :: .missing :: done)
    else
      return .inl (.missing :: (← node) :: done)) []

/-! #### All nodes -/

/-- What stands before a node. -/
structure Label where
  tag : Option Tag := none
  /-- The number of anchors before the one of the node. -/
  anchor : Option Nat := none

/-- Reads the anchor of a node, if it has one. -/
def anchor? : NodeReader (Option Nat) := do
  match ← peek? with
  | some (.anchor name) =>
    drop
    let p ← get
    set { p with anchors := (name, none) :: p.anchors }
    return some p.anchors.length
  | _ => return none

/-- Reads the tag of a node, if it has one. -/
def tag? : NodeReader (Option Tag) := do
  match ← peek? with
  | some (.tag t) =>
    drop
    match t.resolve? (← get).handles with
    | some tag => return some tag
    | none => failure
  | _ => return none

/-- Reads the anchor and the tag of a node in either order. -/
def label : NodeReader Label := do
  match ← anchor? with
  | some n => return ⟨← tag?, some n⟩
  | none =>
    match ← tag? with
    | some t => return ⟨some t, ← anchor?⟩
    | none => return {}

/-- Gives a node to the anchor that `n` others are before. -/
def setAnchor (n : Nat) (node : Node) : NodeReader Unit :=
  modify fun p =>
    let i := p.anchors.length - 1 - n
    { p with anchors := p.anchors.modify i fun (name, _) => (name, some node) }

/-- What a word stands for under a tag, if it has one. -/
def wordOf (tag : Option Tag) (cs : List Char) : Node :=
  .scalar (match tag with
    | some t => .ofTagged t cs
    | none => .ofWord cs)

/-- Reads a node with nodes nested less than `depth` deep.  `inBlock` says whether it may be told by
indentation, `unindented` whether it may be a list that is not indented itself. -/
def node : Nat → Bool → Bool → NodeReader Node
  | 0, _, _ => failure
  | depth + 1, inBlock, unindented => do
    match ← peek? with
    | some (.reference name) =>
      drop
      match List.lookup name (← get).anchors with
      | some found => return found.getD (.scalar .unusable)
      | none => failure
    | _ =>
      let l ← label
      let n ←
        match ← peek? with
        | some (.scalar plain text) =>
          drop
          pure (if plain then wordOf l.tag text else .scalar (.text text))
        | some .openList =>
          drop
          flowItems (node depth false false)
        | some .openMapping =>
          drop
          flowMembers (node depth false false)
        | next =>
          if unindented && next == some .item then
            unindentedItems (node depth true false)
          else if inBlock && next == some .openBlockList then
            drop
            blockItems (node depth true false)
          else if inBlock && next == some .openBlockMapping then
            drop
            blockMembers (node depth true true)
          else if l.tag.isSome || l.anchor.isSome then
            pure (wordOf l.tag [])
          else
            failure
      if let some a := l.anchor then setAnchor a n
      return n

end NodeReader

end LineGlob.Yaml
