/-
Why settings cannot be loaded.
-/
namespace LineGlob.Settings

/-- The kind of a reason for which settings cannot be loaded. -/
inductive ErrorKind where
  /-- A file cannot be found or read. -/
  | unavailable
  /-- A file is not a document of its format. -/
  | malformed
  /-- A value is not of the type that its key asks for. -/
  | wrongType
  /-- A value is none of the words that its key allows. -/
  | wrongWord
  /-- Any other kind. -/
  | other
deriving DecidableEq, Repr

/-- A reason for which settings cannot be loaded, in words. -/
structure Error where
  kind : ErrorKind
  text : String
deriving DecidableEq, Repr

end LineGlob.Settings
