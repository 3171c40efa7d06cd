/-
The tokens of a YAML document.

Indentation is told by tokens like brackets are: a token opens a list or a mapping that
is told by indentation, and one ends it.
-/
import LineGlob.Document.Yaml.Tag

namespace LineGlob.Yaml

/-- A token. -/
inductive Token where
  | directive (d : Tag.Directive)
  | documentStart
  | documentEnd
  /-- Opens a list told by indentation. -/
  | openBlockList
  /-- Opens a mapping told by indentation. -/
  | openBlockMapping
  /-- Ends a list or a mapping told by indentation. -/
  | closeBlock
  | openList
  | closeList
  | openMapping
  | closeMapping
  /-- The hyphen before an item. -/
  | item
  | comma
  /-- Comes before a key. -/
  | key
  /-- Comes before the value of a key. -/
  | value
  /-- Stands for the value that an anchor names. -/
  | reference (name : List Char)
  | anchor (name : List Char)
  | tag (t : Tag.Source)
  /-- A word or a text; `plain` if it stands in no marks and what it means is told by itself. -/
  | scalar (plain : Bool) (text : List Char)
deriving DecidableEq, Repr

end LineGlob.Yaml
