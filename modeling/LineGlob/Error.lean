/-
Why a run fails.
-/
import LineGlob.IoError
import LineGlob.Settings.Error
import LineGlob.Text.Quoted

namespace LineGlob

/-- A reason for which a run fails. -/
inductive Error where
  /-- Reading or writing failed. -/
  | io (e : IoError)
  /-- The settings cannot be loaded. -/
  | settings (e : Settings.Error)
  /-- There is no file of that name. -/
  | fileNotFound (name : List Char)
deriving DecidableEq, Repr

namespace Error

/-- The text of a reason. -/
def message : Error → String
  | io e => e.text
  | settings e => "failed to load configuration: " ++ e.text
  | fileNotFound name => "file " ++ String.ofList (Text.quoted name) ++ " not found"

/-- Whether nobody reads any more on the other end of a pipe. -/
def isBrokenPipe : Error → Bool
  | io e => e.kind == .brokenPipe
  | _ => false

end Error

/-- The exit status for the result of a run, which is the number of selected lines: 0 if there
were any, 1 if there were none and 2 after an error.  A closed pipe is no error: whoever closed it
has seen all they wanted. -/
def exitStatus : Except Error Nat → Nat
  | .ok 0 => 1
  | .ok (_ + 1) => 0
  | .error e => if e.isBrokenPipe then 0 else 2

end LineGlob
