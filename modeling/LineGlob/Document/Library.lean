/-
The library with which the program is started.

It reads settings files in three formats, TOML, JSON and YAML.  A name may leave out the
extension; a file of exactly that name goes first, and what format a file has is told by
its extension alone.  If there are several files that could be meant, the one is taken
whose extension comes first in `extensions`.

Whether a value can be used is looked at only when a field asks for it, so a value that a
later file replaces does no harm.

The program works with any library (`Settings.Library`), and this is only the one that it
is given at its start.
-/
import LineGlob.Arguments.Basic
import LineGlob.Document.Json
import LineGlob.Document.Layers
import LineGlob.Document.Problem
import LineGlob.Document.Toml.Basic
import LineGlob.Document.Yaml.Basic
import LineGlob.Settings.Load
import LineGlob.Text.Lowercase

namespace LineGlob.Document

/-! ### Finding a file -/

/-- A format of documents. -/
inductive Format where
  | toml
  | json
  | yaml
deriving DecidableEq, Repr

namespace Format

/-- The extensions with their formats, in the order in which they are tried. -/
def extensions : List (Bytes × Format) :=
  [("toml", toml), ("json", json), ("yaml", yaml), ("yml", yaml)].map
    fun (word, format) => (Text.encode word.toList, format)

/-- The table that a text is in a format. -/
def document? : Format → List Char → Option Table
  | toml => Toml.document?
  | json => Json.document?
  | yaml => Yaml.document?

end Format

/-- A path with each of the extensions, in the order in which they are tried.  There are none for
a path that does not end in a name. -/
def withExtensions (path : Bytes) : List (Bytes × Format) :=
  match Path.upToName? path with
  | some stem => Format.extensions.map fun (ending, format) =>
    (stem ++ [Path.dot] ++ ending, format)
  | none => []

/-- The paths at which the file of a name may be, seen from a directory. -/
def candidates (directory : Bytes) (name : List Char) : List Bytes :=
  let path := Path.join directory (Text.encode name)
  path :: (withExtensions path).map (·.1)

/-- Finds the file of a name, and returns its path and format. -/
def locate (fs : FileSystem) (name : List Char) : Except Problem (Bytes × Format) :=
  let path := Path.join fs.workingDirectory (Text.encode name)
  if (fs.file? path).isSome then
    let fileName := ((Path.components path).getLast?).getD []
    match List.lookup (Path.extension fileName) Format.extensions with
    | some format => .ok (path, format)
    | none => .error (.unknownFormat (Text.decodeLossy path))
  else
    match (withExtensions path).find? fun (path, _) => (fs.file? path).isSome with
    | some found => .ok found
    | none => .error (.notFound name)

/-! ### Reading a file -/

/-- The file of a name as it is found: where it is, its format, and its bytes. -/
def find (fs : FileSystem) (name : List Char) : Except Problem (Bytes × Format × Bytes) := do
  let (path, format) ← locate fs name
  match fs.file? path with
  | some (.ok ⟨data, none⟩) => return (path, format, data)
  | some (.ok ⟨_, some e⟩) | some (.error e) => throw (.unreadable e)
  | none => throw (.notFound name)

/-- The mark that some editors put in front of a text. -/
def byteOrderMark : Bytes := [0xEF, 0xBB, 0xBF]

/-- Reads the file of a name.  Each of its values is noted to be from that file. -/
def read (fs : FileSystem) (name : List Char) (required : Bool) :
    Except Problem (List (String × Entry)) :=
  match find fs name with
  | .error e => if required then .error e else .ok []
  | .ok (path, format, data) =>
    let origin := Text.decodeLossy (Path.relativeTo fs.workingDirectory path)
    let data := if byteOrderMark.isPrefixOf data then data.drop byteOrderMark.length else data
    match format.document? (Text.decodeLossy data) with
    | some t => .ok (t.map fun (key, v) => (key, ⟨v, some origin⟩))
    | none => .error (.malformed origin)

/-! ### Using the values -/

/-- The words for true. -/
def trueWords : List String := ["1", "true", "on", "yes"]

/-- The words for false. -/
def falseWords : List String := ["0", "false", "off", "no"]

/-- Reads a value as a truth value.  Numbers are true unless they are zero, and words are
recognised in either case. -/
def Entry.toBool (key : String) (e : Entry) : Except Problem Bool :=
  let fail (found : Found) : Except Problem Bool := .error (.notBoolean found key e.origin)
  match e.value with
  | .bool b => .ok b
  | .number n => .ok !n.isZero
  | .text s =>
    let word := Text.lowercase s.toList
    if trueWords.any (·.toList == word) then .ok true
    else if falseWords.any (·.toList == word) then .ok false
    else fail (.text word)
  | .null => fail .null
  | .list _ => fail .list
  | .table _ => fail .table

/-- Reads a value as one of some words: the word, or a table with the word as its only key. -/
def Entry.toWord (name : String) (words : List String) (key : String) (e : Entry) :
    Except Problem (Fin words.length) :=
  let ofWord (word : String) : Except Problem (Fin words.length) :=
    match words.finIdxOf? word with
    | some i => .ok i
    | none => .error (.unknownWord name word key)
  match e.value with
  | .text word => ofWord word
  | .table [(word, _)] => ofWord word
  | _ => .error (.notWord name key)

/-- The library. -/
def library : Settings.Library where
  Value := Entry
  Layers := Layers
  bare := .bare
  read fs name required := (read fs name required).mapError Problem.error
  add := Layers.add
  entries := Layers.entries
  toBool key e := (e.toBool key).mapError Problem.error
  toWord name words key e := (e.toWord name words key).mapError Problem.error

/-! ### Where settings are kept -/

/-- The directory in which programs keep their settings: the one that the environment names, if
that is a path from the root, or else one in the home directory.  The home directory is the one that
the environment names, if it names one, or else that of the user's account. -/
def settingsHome? (env : Environment) (account : Option Bytes) : Option Bytes :=
  let home := ((env.get? "HOME").filter fun dir => !dir.isEmpty).or account
  ((env.get? "XDG_CONFIG_HOME").filter Path.isAbsolute).or
    (home.map fun dir => Path.join dir (Text.encode ".config".toList))

end LineGlob.Document
