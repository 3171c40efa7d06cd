/-
Files, as far as a run can see them.

A run asks one question about a path: what does it lead to?  The answer is a directory,
a file that can be opened or not, or a failure to get there at all.
-/
import LineGlob.Error
import LineGlob.Files.Path
import LineGlob.Input.Basic

namespace LineGlob

/-- What a file holds when it is read: its bytes, and how reading fails after them if it does not
simply end. -/
structure Content where
  data : Bytes
  failure : Option IoError
deriving DecidableEq, Repr

/-- What a path leads to. -/
inductive Node where
  | directory
  /-- A file, with what it holds or why it cannot be opened. -/
  | file (content : Except IoError Content)

/-- The files that a run sees. -/
structure FileSystem where
  /-- The directory in which paths start, as a path from the root. -/
  workingDirectory : Bytes
  lookup : Bytes → Except IoError Node

namespace FileSystem

/-- The content of a path that leads to a file, unless it leads to none. -/
def file? (fs : FileSystem) (path : Bytes) : Option (Except IoError Content) :=
  match fs.lookup path with
  | .ok (.file content) => some content
  | _ => none

end FileSystem

namespace Reference

/-- Why an input cannot be opened, given what was tried and how it failed. -/
def accessError (r : Reference) (action : String) (e : IoError) : Error :=
  match e.kind, r with
  | .notFound, file path => .fileNotFound (Text.decodeLossy path)
  | _, _ => .io ⟨e.kind, action ++ " " ++ r.description ++ ": " ++ e.text⟩

/-- Opens an input.  `stdin` is what standard input holds. -/
def «open» (fs : FileSystem) (stdin : Content) (r : Reference) : Except Error Input :=
  match r with
  | .stdin => .ok ⟨r, stdin.data, stdin.failure⟩
  | .file path =>
    match fs.lookup path with
    | .error e => .error (r.accessError "failed to get information on" e)
    | .ok .directory => .error (.io ⟨.invalidInput, r.description ++ " is a directory"⟩)
    | .ok (.file (.error e)) => .error (r.accessError "failed to open" e)
    | .ok (.file (.ok content)) => .ok ⟨r, content.data, content.failure⟩

end Reference

end LineGlob
