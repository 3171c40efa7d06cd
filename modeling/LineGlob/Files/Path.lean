/-
Paths, as the bytes that name files.

A path is a list of names with slashes between them.  Empty names and single dots lead
nowhere, so they are left out wherever only the place matters; two dots are kept,
because what they lead to depends on the files.
-/
import LineGlob.Text.Utf8

namespace LineGlob.Path

/-- The byte between names. -/
def slash : UInt8 := 47

/-- The byte between a name and its extension. -/
def dot : UInt8 := 46

/-- The name of the directory itself. -/
def here : Bytes := [dot]

/-- The name of the directory above. -/
def above : Bytes := [dot, dot]

/-- The names between the slashes, empty ones included. -/
def names : Bytes → List Bytes
  | [] => [[]]
  | b :: bytes =>
    if b = slash then [] :: names bytes
    else
      match names bytes with
      | name :: later => (b :: name) :: later
      | [] => [[b]]

/-- The names that lead somewhere. -/
def components (path : Bytes) : List Bytes :=
  (names path).filter fun name => !name.isEmpty && name != here

/-- Whether a path starts at the root. -/
def isAbsolute (path : Bytes) : Bool :=
  path.head? == some slash

/-- A path of names in order. -/
def ofNames (names : List Bytes) : Bytes :=
  (names.intersperse [slash]).flatten

/-- A path seen from a directory. -/
def join (base path : Bytes) : Bytes :=
  if isAbsolute path then path
  else if base.isEmpty || base.getLast? == some slash then base ++ path
  else base ++ [slash] ++ path

/-- A path from the directory `base` to where `path` leads, both of them from the root. -/
def relativeTo (base path : Bytes) : Bytes :=
  ofNames (go (components base) (components path))
where
  /-- Leaves out what both have in common, and goes up from the rest of the directory. -/
  go : List Bytes → List Bytes → List Bytes
    | b :: bs, p :: ps => if b = p then go bs ps else (b :: bs).map (fun _ => above) ++ p :: ps
    | bs, ps => bs.map (fun _ => above) ++ ps

/-! ### File names -/

/-- A path without what leads nowhere at its end, the end first. -/
def trimmedEnd : Bytes → Bytes
  | [] => []
  | b :: bytes =>
    if b = slash then trimmedEnd bytes
    else if b = dot ∧ bytes.head? = some slash then trimmedEnd bytes
    else b :: bytes

/-- A path that starts at the root, up to the end of its last name; nothing if there is no last
name or it leads up. -/
def upToName? (path : Bytes) : Option Bytes :=
  let trimmed := (trimmedEnd path.reverse).reverse
  match (names trimmed).getLast? with
  | some name => if name.isEmpty || name == above then none else some trimmed
  | none => none

/-- What follows the last dot of a name, unless the name starts there. -/
def extension (name : Bytes) : Bytes :=
  let ending := (name.reverse.takeWhile (· != dot)).reverse
  if ending.length + 1 < name.length then ending else []

end LineGlob.Path
