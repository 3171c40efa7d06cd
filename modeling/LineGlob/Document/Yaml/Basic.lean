/-
Documents in YAML.

A file may hold several documents with markers between them, but settings are read from
a single one.  No document at all is an empty table.
-/
import LineGlob.Document.Yaml.Node

namespace LineGlob.Yaml

namespace NodeReader

/-- Reads the directives before a document.  The version may be told once, and of all directives
only the last one can give a text to a handle. -/
def directives : NodeReader Unit := do
  loop (fun versioned => do
    match ← peek? with
    | some (.directive d) =>
      drop
      if versioned && d == .version then failure
      let handles :=
        match d with
        | .handle h text => [(h, text)]
        | _ => []
      modify fun p => { p with handles }
      return .inl (versioned || d == .version)
    | _ => return .inr ()) false

/-- Whether what comes next belongs to no document that has started. -/
def atDivision : NodeReader Bool := do
  match ← peek? with
  | none | some (.directive _) | some .documentStart | some .documentEnd => return true
  | _ => return false

/-- Reads a document.  It need not start with a marker if it comes first or after the marker of an
end. -/
def document (depth : Nat) (unmarked : Bool) : NodeReader Node := do
  if unmarked && !(← atDivision) then
    node depth true false
  else
    directives
    if ← accept .documentStart then
      if ← atDivision then return .missing else node depth true false
    else
      failure

/-- Reads all documents.  Directives must come after the marker of an end. -/
def documents (depth : Nat) : NodeReader (List Node) :=
  loop (fun ((done : List Node), unmarked) => do
    if ← accept .documentEnd then
      return .inl (done, unmarked)
    if (← peek?).isNone then
      return .inr done.reverse
    let d ← document depth unmarked
    modify fun p => { p with handles := [] }
    let ended ← accept .documentEnd
    if let some (.directive _) ← peek? then
      if !ended then failure
    return .inl (d :: done, ended)) ([], true)

end NodeReader

/-- The table that a document is. -/
def document? (cs : List Char) : Option Table := do
  let tokens ← Token.ofText? cs
  let (documents, _) ← (NodeReader.documents (tokens.length + 1)).run { tokens }
  match documents with
  | [] => return []
  | [d] =>
    match ← d.toValue? with
    | .table t => return t
    | _ => none
  | _ => none

end LineGlob.Yaml
