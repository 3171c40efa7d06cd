/-
What the command line asks for.
-/
import LineGlob.Input.Reference
import LineGlob.Settings.Basic

namespace LineGlob

/-- The environment: names of variables with their values. -/
abbrev Environment := List (String × Bytes)

namespace Environment

/-- The value of a variable. -/
def get? (env : Environment) (name : String) : Option Bytes :=
  List.lookup name env

end Environment

/-- What the command line and the environment ask for. -/
structure Arguments where
  /-- The names of settings files, resets included. -/
  config : List String
  ignoreCase : Bool
  invertMatch : Bool
  count : Bool
  /-- Take the pattern as a plain text. -/
  literal : Bool
  /-- When to show names of inputs, if asked for. -/
  filename : Option FilenameMode
  /-- Always show names of inputs, whatever `filename` says. -/
  filenameAlways : Bool
  pattern : String
  files : List Bytes
deriving DecidableEq, Repr

namespace Arguments

/-- When to show names of inputs, if the command line says. -/
def filenameMode (a : Arguments) : Option FilenameMode :=
  if a.filenameAlways then some .always else a.filename

/-- The inputs to filter. -/
def inputs (a : Arguments) : List Reference :=
  Reference.ofPaths a.files

/-- How often standard input is named in vain. -/
def repeatedStdin (a : Arguments) : Nat :=
  a.files.length - a.inputs.length

end Arguments

/-- Why a command line is not run. -/
inductive UsageError where
  /-- An option that there is not. -/
  | unknownArgument
  /-- A value that an option or an argument does not take, or none where one is needed. -/
  | invalidValue
  /-- An option given twice that can be given once. -/
  | repeatedOption
  /-- A value for an option that takes none. -/
  | unexpectedValue
  /-- A value that has to be a text and is none. -/
  | notText
  /-- There is no pattern. -/
  | missingArgument
  /-- The command line asks for help instead. -/
  | help
  /-- The command line asks for the version instead. -/
  | version
deriving DecidableEq, Repr

/-- What is printed when the version is asked for. -/
def versionText : String := "wcmatch 0.1.0\n"

end LineGlob
