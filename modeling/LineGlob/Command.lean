/-
A run of the program, from its arguments to its exit status.

The stages come one after the other: the command line, the settings, the inputs, the
filter.  All inputs are opened before the filter starts, so a run that fails on one of
them has printed nothing.
-/
import LineGlob.Arguments.Reader
import LineGlob.Filter.Basic
import LineGlob.Settings.Load

namespace LineGlob

namespace Filter

/-- The filter that the command line and the settings ask for, with so many inputs.  Flags can only
switch things on. -/
def ofArguments (a : Arguments) (s : Settings) (inputs : Nat) : Filter where
  pattern :=
    .ofSource (if a.literal then String.ofList (quote a.pattern.toList) else a.pattern)
      (.ofIgnoreCase (a.ignoreCase || s.ignoreCase))
  invert := a.invertMatch || s.invertMatch
  count := a.count
  withFilename := (a.filenameMode.getD s.withFilename).shows inputs

end Filter

namespace Command

/-- What a run meets. -/
structure Surroundings where
  env : Environment
  /-- The directory in which programs keep their settings, if there is one. -/
  settingsHome : Option Bytes
  /-- What reads settings files. -/
  library : Settings.Library
  files : FileSystem
  /-- What standard input holds. -/
  stdin : Content

/-- The name of the program. -/
def programName : String := "wcmatch"

/-- The path of the default settings file without its extension, given the directory in which
programs keep their settings. -/
def defaultSettings (home : Bytes) : Bytes :=
  Path.join (Path.join home (Text.encode programName.toList)) (Text.encode "config".toList)

/-- The settings files to load, given the directory in which programs keep their settings and all
names from the command line. -/
def settingsSources (home : Option Bytes) (config : List String) : List Settings.Source :=
  let (names, reset) := Settings.afterReset config
  Settings.sources (if reset then none else home.map defaultSettings) names

/-- The notes on the settings files to load. -/
def sourceNotes (sources : List Settings.Source) : List Note :=
  sources.map fun s => .source s.path s.required

/-- Opens inputs in order up to the first that cannot be opened.  Those that could be are noted. -/
def openAll (fs : FileSystem) (stdin : Content) :
    List Reference → List Note × Except Error (List Input)
  | [] => ([], .ok [])
  | r :: refs =>
    match r.open fs stdin with
    | .error e => ([], .error e)
    | .ok input =>
      let (notes, rest) := openAll fs stdin refs
      (.opened r :: notes, rest.map (input :: ·))

/-- What a run does before the filter starts: it loads the settings and opens all inputs.  The
result is the filter with its inputs. -/
def prepare (s : Surroundings) (a : Arguments) :
    List Note × Except Error (Filter × List Input) :=
  let sources := settingsSources s.settingsHome a.config
  match Settings.load s.library s.files sources with
  | .error e => (sourceNotes sources, .error (.settings e))
  | .ok settings =>
    let filter := Filter.ofArguments a settings a.inputs.length
    let (openNotes, opened) := openAll s.files s.stdin a.inputs
    ( sourceNotes sources ++ List.replicate a.repeatedStdin .repeatedStdin ++ openNotes,
      opened.map (filter, ·) )

/-- Runs the program with arguments that have been read. -/
def runWith (s : Surroundings) (a : Arguments) (output : Output) : Filter.Outcome :=
  match prepare s a with
  | (notes, .error e) => ⟨.error e, output, notes⟩
  | (notes, .ok (filter, inputs)) =>
    let outcome := filter.run inputs output
    { outcome with notes := notes ++ outcome.notes }

/-- Runs the program. -/
def run (s : Surroundings) (args : List Bytes) (output : Output) :
    Except UsageError Filter.Outcome := do
  let a ← Arguments.read s.env args
  return runWith s a output

/-! ### What is left behind -/

/-- What a run leaves to whoever started it. -/
structure Report where
  status : Nat
  stdout : Bytes
  /-- What went wrong, unless nothing did or nobody is to be told. -/
  errorLine : Option String
  /-- Whether the command line could not be run. -/
  usageError : Option UsageError

/-- The exit status after a command line that is not run.  Asking for help or for the version is
no mistake. -/
def usageStatus : UsageError → Nat
  | .help | .version => 0
  | _ => 2

/-- The outcome of a run whose output is passed on only after the filter has ended.  A failure to
do so is the result of the run unless the filter itself has failed. -/
def passedOn (outcome : Filter.Outcome) (failure : Option IoError) : Filter.Outcome :=
  match outcome.result, failure with
  | .ok _, some e => { outcome with result := .error (.io e) }
  | _, _ => outcome

/-- The report of a run. -/
def report : Except UsageError Filter.Outcome → Report
  | .error e =>
    let asked := usageStatus e = 0
    ⟨usageStatus e, if e = .version then Text.encode versionText.toList else [], none,
      if asked then none else some e⟩
  | .ok outcome =>
    let errorLine :=
      match outcome.result with
      | .ok _ => none
      | .error e => if e.isBrokenPipe then none else some e.message
    ⟨exitStatus outcome.result, outcome.output.written.toList, errorLine, none⟩

end Command

end LineGlob
