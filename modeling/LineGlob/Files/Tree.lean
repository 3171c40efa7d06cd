/-
A tree of files held in memory.

The tree is listed by the names that lead from the root to its files and to those
directories that hold none.  A path is followed name by name: every name but the last
has to be found in a directory, and the two special names stay in it or leave it.
-/
import LineGlob.Files.Basic

namespace LineGlob

/-- Files with their contents, and directories without. -/
abbrev FileTree := List (List Bytes × Option Bytes)

namespace FileTree

/-- The greatest number of bytes of a name. -/
def maxName : Nat := 255

/-- The number of bytes that a path has to stay below. -/
def maxPath : Nat := 4096

/-- What stands at a place of the tree, given by the names from the root.  The root is always
there, and so is every directory that something is in. -/
def node? (t : FileTree) (place : List Bytes) : Option Node :=
  match t.find? fun (names, _) => names == place with
  | some (_, some data) => some (.file (.ok ⟨data, none⟩))
  | some (_, none) => some .directory
  | none =>
    if place.isEmpty || t.any fun (names, _) => place.isPrefixOf names then some .directory
    else none

/-- Follows names from a place. -/
def follow (t : FileTree) (place : List Bytes) : List Bytes → Except IoError Node
  | [] =>
    match t.node? place with
    | some node => .ok node
    | none => .error .missing
  | name :: names =>
    match t.node? place with
    | none => .error .missing
    | some (.file _) => .error .belowFile
    | some .directory =>
      if name.isEmpty || name == Path.here then follow t place names
      else if name == Path.above then follow t place.dropLast names
      else if name.length > maxName then .error .tooLong
      else follow t (place ++ [name]) names

/-- What a path leads to, seen from a directory. -/
def lookup (t : FileTree) (workingDirectory path : Bytes) : Except IoError Node :=
  if path.contains 0 then .error .nulInName
  else if path.isEmpty then .error .missing
  else if path.length ≥ maxPath then .error .tooLong
  else
    t.follow (if Path.isAbsolute path then [] else Path.components workingDirectory)
      (Path.names path)

/-- The files of a tree, seen from a directory. -/
def fileSystem (t : FileTree) (workingDirectory : Bytes) : FileSystem where
  workingDirectory := workingDirectory
  lookup := t.lookup workingDirectory

end FileTree

end LineGlob
