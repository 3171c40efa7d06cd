/-
What can be wrong with settings files and with the values in them.
-/
import LineGlob.IoError
import LineGlob.Settings.Error
import LineGlob.Text.Quoted

namespace LineGlob.Document

/-- What was found where a truth value was asked for. -/
inductive Found where
  | null
  | text (cs : List Char)
  | list
  | table
deriving DecidableEq, Repr

/-- What was found, in words. -/
def Found.description : Found → String
  | null => "unit value"
  | text cs => "string " ++ String.ofList (Text.quoted cs)
  | list => "sequence"
  | table => "map"

/-- What is wrong with a settings file or with a value. -/
inductive Problem where
  /-- No file has the name, with or without an extension. -/
  | notFound (name : List Char)
  /-- The name of a file does not tell its format. -/
  | unknownFormat (path : List Char)
  /-- A file cannot be read. -/
  | unreadable (e : IoError)
  /-- A file is not a document of its format. -/
  | malformed (path : List Char)
  /-- A value that is no truth value; `origin` is the file it is from, where that is known. -/
  | notBoolean (found : Found) (key : String) (origin : Option (List Char))
  /-- A word that is none of those that a key allows, which are called `words` together. -/
  | unknownWord (words : String) (word : String) (key : String)
  /-- A value that cannot stand for a word. -/
  | notWord (words : String) (key : String)
deriving DecidableEq, Repr

namespace Problem

/-- The kind of reason that a problem is. -/
def kind : Problem → Settings.ErrorKind
  | notFound _ | unknownFormat _ | unreadable _ => .unavailable
  | malformed _ => .malformed
  | notBoolean .. => .wrongType
  | unknownWord .. | notWord .. => .wrongWord

/-- The text of a problem. -/
def message : Problem → String
  | notFound name => "configuration file \"" ++ String.ofList name ++ "\" not found"
  | unknownFormat path =>
    "configuration file \"" ++ String.ofList path ++ "\" is not of a supported file format"
  | unreadable e => e.text
  | malformed path => "malformed document in " ++ String.ofList path
  | notBoolean found key origin =>
    "invalid type: " ++ found.description ++ ", expected a boolean for key \x60" ++ key ++ "\x60" ++
      (match origin with
      | some path => " in " ++ String.ofList path
      | none => "")
  | unknownWord words word key =>
    "enum " ++ words ++ " does not have variant constructor " ++ word ++ " for key \x60" ++ key ++
      "\x60"
  | notWord words key =>
    "value of enum " ++ words ++ " should be represented by either string or table with exactly " ++
      "one key for key \x60" ++ key ++ "\x60"

/-- The reason for which settings with this problem cannot be loaded. -/
def error (p : Problem) : Settings.Error :=
  ⟨p.kind, p.message⟩

end Problem

end LineGlob.Document
