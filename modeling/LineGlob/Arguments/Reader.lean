/-
How a command line is read.

Arguments are read from left to right.  The values of an option or of a positional
argument are collected first and stored only when something else comes up, so a value
that is refused is reported only then.  An unknown option, and a value given to an
option that takes none, are reported at once: they win over a refused value that has
not been stored yet.

The environment is looked at after the last argument, and only for options that the
command line does not give.  A missing pattern is the last thing to be reported.
-/
import LineGlob.Arguments.Basic

namespace LineGlob.Arguments

/-! ### Options -/

/-- An option that takes no value. -/
inductive Flag where
  | ignoreCase
  | invertMatch
  | count
  | literal
  | filenameAlways
  | help
  | version
deriving DecidableEq, Repr

/-- An option that takes a value. -/
inductive Valued where
  | config
  | filename
deriving DecidableEq, Repr

/-- The flag of a letter. -/
def Flag.ofLetter? : Char → Option Flag
  | 'i' => some .ignoreCase
  | 'v' => some .invertMatch
  | 'c' => some .count
  | 'F' => some .literal
  | 'H' => some .filenameAlways
  | 'h' => some .help
  | 'V' => some .version
  | _ => none

/-- The option of a name. -/
def optionOfName? (name : Bytes) : Option (Flag ⊕ Valued) :=
  [ ("ignore-case", .inl .ignoreCase), ("invert-match", .inl .invertMatch), ("count", .inl .count),
    ("literal", .inl .literal), ("help", .inl .help), ("version", .inl .version),
    ("config", .inr .config), ("filename", .inr .filename) ].findSome?
    fun (word, option) => if Text.encode word.toList = name then some option else none

/-! ### What has been read so far -/

/-- What a value is for. -/
inductive Slot where
  | option (o : Valued)
  | pattern
  | files
deriving DecidableEq, Repr

/-- The command line as far as it has been stored. -/
structure Draft where
  flags : List Flag
  config : List String
  filename : Option FilenameMode
  pattern : Option String
  files : List Bytes
deriving DecidableEq, Repr

/-- How far reading has come. -/
structure Reading where
  draft : Draft
  /-- Values that have been collected but not stored. -/
  pending : Option (Slot × List Bytes)
  /-- Whether the first positional argument has been met. -/
  patternSeen : Bool
  /-- Whether all further arguments are positional. -/
  positionalOnly : Bool
deriving DecidableEq, Repr

/-- Nothing has been read. -/
def Reading.start : Reading := ⟨⟨[], [], none, none, []⟩, none, false, false⟩

/-- A value that has to be a text. -/
def asText (value : Bytes) : Except UsageError String :=
  match Text.decode? value with
  | some cs => .ok (String.ofList cs)
  | none => .error .notText

/-- Stores the values of a slot. -/
def Draft.store (d : Draft) : Slot → List Bytes → Except UsageError Draft
  | .option _, [] => .error .invalidValue
  | .option .config, values => do
    let names ← values.mapM asText
    return { d with config := d.config ++ names }
  | .option .filename, value :: _ =>
    match (Text.decode? value).bind fun cs => FilenameMode.ofWord? (String.ofList cs) with
    | some mode => return { d with filename := some mode }
    | none => throw .invalidValue
  | .pattern, [] => .error .invalidValue
  | .pattern, value :: _ => do
    let source ← asText value
    return { d with pattern := some source }
  | .files, values =>
    if values.any (·.isEmpty) then throw .invalidValue
    else return { d with files := d.files ++ values }

/-- Stores what has been collected. -/
def Reading.settle (r : Reading) : Except UsageError Reading :=
  match r.pending with
  | none => return r
  | some (slot, values) => do
    let draft ← r.draft.store slot values
    return { r with draft, pending := none }

/-! ### Reading one argument -/

/-- Takes a flag. -/
def Reading.takeFlag (r : Reading) (f : Flag) : Except UsageError Reading := do
  let r ← r.settle
  match f with
  | .help => throw .help
  | .version => throw .version
  | f =>
    if f ∈ r.draft.flags then throw .repeatedOption
    else return { r with draft.flags := f :: r.draft.flags }

/-- Takes an option that has its value with it. -/
def Reading.takeAttached (r : Reading) (o : Valued) (value : Bytes) :
    Except UsageError Reading := do
  let r ← r.settle
  let draft ← r.draft.store (.option o) [value]
  return { r with draft }

/-- Takes an option whose value is still to come. -/
def Reading.takeOption (r : Reading) (o : Valued) : Except UsageError Reading := do
  let r ← r.settle
  return { r with pending := some (.option o, []) }

/-- Takes a positional argument: the pattern first, then files. -/
def Reading.takePositional (r : Reading) (value : Bytes) : Except UsageError Reading :=
  match r.pending with
  | some (.files, values) => return { r with pending := some (.files, values ++ [value]) }
  | _ => do
    let r ← r.settle
    let slot : Slot := if r.patternSeen then .files else .pattern
    return { r with pending := some (slot, [value]), patternSeen := true }

/-- Takes an argument that is not an option: the value that an option waits for, or a positional
argument. -/
def Reading.takeValue (r : Reading) (value : Bytes) : Except UsageError Reading :=
  match r.pending with
  | some (.option o, []) => return { r with pending := some (.option o, [value]) }
  | _ => r.takePositional value

/-- Takes letters that follow a single dash. -/
def Reading.takeLetters (r : Reading) : List Text.Piece → Except UsageError Reading
  | [] => return r
  | .broken _ :: _ => throw .unknownArgument
  | .char c :: letters =>
    match Flag.ofLetter? c with
    | some f => do
      let r ← r.takeFlag f
      r.takeLetters letters
    | none => throw .unknownArgument

/-- Takes what follows two dashes. -/
def Reading.takeLong (r : Reading) (body : Bytes) : Except UsageError Reading :=
  let equals : UInt8 := 61
  let name := body.takeWhile (· != equals)
  match optionOfName? name, body.drop name.length with
  | none, _ => throw .unknownArgument
  | some (.inl f), [] => r.takeFlag f
  | some (.inl _), _ :: _ => throw .unexpectedValue
  | some (.inr o), [] => r.takeOption o
  | some (.inr o), _ :: value => r.takeAttached o value

/-- Takes an argument. -/
def Reading.take (r : Reading) (arg : Bytes) : Except UsageError Reading :=
  let dash : UInt8 := 45
  if r.positionalOnly then r.takePositional arg
  else if arg = [dash, dash] then return { r with positionalOnly := true }
  else
    match arg with
    | [] => r.takeValue arg
    | first :: rest =>
      if first ≠ dash then r.takeValue arg
      else
        match rest with
        | [] => r.takeValue arg
        | second :: body => if second = dash then r.takeLong body else r.takeLetters (Text.pieces rest)

/-! ### Reading a command line -/

/-- Looks a flag up in the environment unless the command line gives it. -/
def flagOr (env : Environment) (name : String) (flags : List Flag) (f : Flag) :
    Except UsageError Bool :=
  if f ∈ flags then return true
  else
    match env.get? name with
    | none => return false
    | some value =>
      if value = Text.encode "true".toList then return true
      else if value = Text.encode "false".toList then return false
      else throw .invalidValue

/-- Looks the names of settings files up in the environment unless the command line gives some. -/
def configOr (env : Environment) (config : List String) : Except UsageError (List String) :=
  match config, env.get? "WCMATCH_CONFIG" with
  | [], some value => do return [← asText value]
  | config, _ => return config

/-- What a whole command line asks for in an environment. -/
def read (env : Environment) (args : List Bytes) : Except UsageError Arguments := do
  let r ← args.foldlM Reading.take Reading.start
  let d := (← r.settle).draft
  let config ← configOr env d.config
  let ignoreCase ← flagOr env "WCMATCH_IGNORE_CASE" d.flags .ignoreCase
  let invertMatch ← flagOr env "WCMATCH_INVERT_MATCH" d.flags .invertMatch
  match d.pattern with
  | none => throw .missingArgument
  | some pattern =>
    return {
      config, ignoreCase, invertMatch, pattern
      count := decide (.count ∈ d.flags)
      literal := decide (.literal ∈ d.flags)
      filename := d.filename
      filenameAlways := decide (.filenameAlways ∈ d.flags)
      files := d.files }

end LineGlob.Arguments
