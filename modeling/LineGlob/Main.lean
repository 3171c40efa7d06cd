/-
The program.

This is the only place where anything is read, printed or asked of the system.  The
files that a run may ask for are looked up before it starts, and standard input is read
only if the run gets as far as needing it.
-/
import LineGlob.Command
import LineGlob.Document.Library

namespace LineGlob.Terminal

/-- An error of the system.  Some parts of the system report the negative of its number, and start
its description with a small letter. -/
def numbered (n : UInt32) (description : String) : IoError :=
  .ofSystem (if n < 0x80000000 then n else 0 - n).toNat description.capitalize

/-- The failure that an error of the system amounts to. -/
def systemError : IO.Error → IoError
  | .alreadyExists _ n text | .otherError n text | .resourceBusy n text | .resourceVanished n text
  | .unsupportedOperation n text | .hardwareFault n text | .unsatisfiedConstraints n text
  | .illegalOperation n text | .protocolError n text | .timeExpired n text | .interrupted _ n text
  | .noFileOrDirectory _ n text | .invalidArgument _ n text | .permissionDenied _ n text
  | .resourceExhausted _ n text | .inappropriateType _ n text | .noSuchThing _ n text =>
    numbered n text
  | .unexpectedEof => .ofKind .unexpectedEof
  | .userError text => ⟨.other, text⟩

/-- Looks up what a path leads to. -/
def lookUp (path : Bytes) : IO (Except IoError Node) := do
  match String.fromUTF8? ⟨path.toArray⟩ with
  | none => return .error .missing
  | some name =>
    try
      let data ← IO.FS.readBinFile name
      return .ok (.file (.ok ⟨data.data.toList, none⟩))
    catch e =>
      let e := systemError e
      if e.kind = .isADirectory then return .ok .directory
      else if e.kind = .permissionDenied then return .ok (.file (.error e))
      else return .error e

/-- Reads a stream to its end. -/
partial def readAll (stream : IO.FS.Stream) (done : Array UInt8) : IO Content := do
  try
    let part ← stream.read 65536
    if part.isEmpty then return ⟨done.toList, none⟩
    else readAll stream (done ++ part.data)
  catch e => return ⟨done.toList, some (systemError e)⟩

/-- Looks up the variables of the environment that a run asks for. -/
def environment : IO Environment := do
  let names := ["XDG_CONFIG_HOME", "HOME", "WCMATCH_CONFIG", "WCMATCH_IGNORE_CASE",
    "WCMATCH_INVERT_MATCH"]
  let found ← names.mapM fun name => do
    return (← IO.getEnv name).map fun value => (name, Text.encode value.toList)
  return found.filterMap id

/-- The home directory of the user's account.  The system keeps a file with a line for every
account, with its number in the third place and its home directory in the sixth. -/
def accountHome : IO (Option Bytes) := do
  try
    let status ← IO.FS.lines "/proc/self/status"
    let accounts ← IO.FS.lines "/etc/passwd"
    let fields := (status.find? (·.startsWith "Uid:")).map fun line => line.splitOn "\t"
    let number := (fields.bind fun fields => fields[1]?).getD ""
    let account := (accounts.map fun line => line.splitOn ":").find? fun account =>
      account[2]? == some number
    return (account.bind fun account => account[5]?).map fun home => Text.encode home.toList
  catch _ => return none

/-- The paths about which a run may ask what they lead to, seen from a directory. -/
def paths (home : Option Bytes) (directory : Bytes) (a : Arguments) : List Bytes :=
  (Command.settingsSources home a.config).flatMap
      (fun s => Document.candidates directory s.name) ++
    a.inputs.filterMap fun
      | .stdin => none
      | .file path => some path

/-- Writes the output of a run, and returns how that fails. -/
def writeOut (bytes : Bytes) : IO (Option IoError) := do
  try
    let stdout ← IO.getStdout
    stdout.write ⟨bytes.toArray⟩
    stdout.flush
    return none
  catch e => return some (systemError e)

/-- How the program is called. -/
def usageText : String :=
  "Usage: wcmatch [OPTIONS] <PATTERN> [FILE]...\n\n" ++
  "Prints lines that match a wildcard pattern as a whole.\n\n" ++
  "Options:\n" ++
  "      --config <FILE>    settings file, - discards all before it\n" ++
  "  -i, --ignore-case      ignore case distinctions\n" ++
  "  -v, --invert-match     select non-matching lines\n" ++
  "  -c, --count            print only a count of selected lines per input\n" ++
  "  -F, --literal          treat the pattern as literal text\n" ++
  "      --filename <WHEN>  print input names: auto, always, never\n" ++
  "  -H                     same as --filename=always\n" ++
  "  -h, --help             print this help\n" ++
  "  -V, --version          print the version\n"

/-- What is wrong with a command line, in words. -/
def complaint : UsageError → String
  | .unknownArgument => "unexpected argument"
  | .invalidValue => "invalid or missing value for an argument"
  | .repeatedOption => "an option cannot be used multiple times"
  | .unexpectedValue => "unexpected value for an option that takes none"
  | .notText => "an argument is not valid UTF-8"
  | .missingArgument => "the pattern is missing"
  | .help | .version => ""

/-- Runs the program with arguments that have been read. -/
def runWith (env : Environment) (a : Arguments) : IO Filter.Outcome := do
  let directory := Text.encode (toString (← IO.currentDir)).toList
  let home := Document.settingsHome? env (← accountHome)
  let found ← (paths home directory a).mapM fun path => return (path, ← lookUp path)
  let files : FileSystem :=
    ⟨directory, fun path => (List.lookup path found).getD (.error .missing)⟩
  let before : Command.Surroundings := ⟨env, home, Document.library, files, ⟨[], none⟩⟩
  match Command.prepare before a with
  | (_, .error _) => return Command.runWith before a .unlimited
  | (_, .ok _) =>
    let stdin ←
      if .stdin ∈ a.inputs then readAll (← IO.getStdin) #[] else pure ⟨[], none⟩
    let outcome := Command.runWith { before with stdin } a .unlimited
    return Command.passedOn outcome (← writeOut outcome.output.written.toList)

/-- Runs the program and returns its exit status. -/
def start (args : List String) : IO UInt32 := do
  let env ← environment
  let stderr ← IO.getStderr
  match Arguments.read env (args.map fun arg => Text.encode arg.toList) with
  | .error e =>
    let report := Command.report (.error e)
    if e = .help then IO.print usageText
    let _ ← writeOut report.stdout
    if report.usageError.isSome then
      stderr.putStr ("error: " ++ complaint e ++ "\n\n" ++ usageText)
    return report.status.toUInt32
  | .ok a =>
    let outcome ← runWith env a
    if (← IO.getEnv "WCMATCH_DEBUG_LOG").isSome then
      outcome.notes.forM fun n => stderr.putStr ("DEBUG " ++ n.text ++ "\n")
    let report := Command.report (.ok outcome)
    match report.errorLine with
    | some line => stderr.putStr ("wcmatch: error: " ++ line ++ "\n")
    | none => pure ()
    return report.status.toUInt32

end LineGlob.Terminal

def main (args : List String) : IO UInt32 :=
  LineGlob.Terminal.start args
