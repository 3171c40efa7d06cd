/-
Settings: what the filter does unless the command line says otherwise.
-/
import LineGlob.Text.Utf8

namespace LineGlob

/-- When the name of its input stands before a line. -/
inductive FilenameMode where
  /-- Only if there is more than one input. -/
  | auto
  | always
  | never
deriving DecidableEq, Repr, Inhabited

namespace FilenameMode

/-- The word for a mode. -/
def word : FilenameMode → String
  | auto => "auto"
  | always => "always"
  | never => "never"

/-- What the words for modes are called together. -/
def wordsName : String := "FilenameOption"

/-- All modes. -/
def all : List FilenameMode := [auto, always, never]

/-- The mode of a word. -/
def ofWord? (s : String) : Option FilenameMode :=
  all.find? (·.word == s)

/-- Whether names are shown for so many inputs. -/
def shows (inputs : Nat) : FilenameMode → Bool
  | auto => inputs > 1
  | always => true
  | never => false

end FilenameMode

/-- Lasting defaults for the command line. -/
structure Settings where
  ignoreCase : Bool
  invertMatch : Bool
  withFilename : FilenameMode
deriving DecidableEq, Repr

namespace Settings

/-- The settings where nothing is set. -/
instance : Inhabited Settings := ⟨⟨false, false, .auto⟩⟩

/-- Whether a name of a settings file takes back all names before it and the default file. -/
def isReset (name : String) : Bool :=
  name == "" || name == "-"

/-- The names that remain after the last reset, and whether there is one. -/
def afterReset : List String → List String × Bool
  | [] => ([], false)
  | name :: names =>
    let (kept, reset) := afterReset names
    if reset then (kept, true)
    else if isReset name then (names, true)
    else (name :: names, false)

/-- A settings file to load. -/
structure Source where
  path : Bytes
  /-- Whether the file has to exist. -/
  required : Bool
deriving DecidableEq, Repr

/-- The name under which a settings file is looked for. -/
def Source.name (s : Source) : List Char :=
  Text.decodeLossy s.path

end Settings

end LineGlob
