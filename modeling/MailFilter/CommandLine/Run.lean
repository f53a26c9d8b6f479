import MailFilter.CommandLine.Arguments
import MailFilter.Filter
import MailFilter.Log.Rule
import MailFilter.Settings.Loading

/-!
# A run of the program

A run reads its settings, then a payload, and writes the filter of that payload, either in a
dialect or as a payload again. What a run does is a function of what it can see: its arguments,
the files there are, the variables of its environment and its input. Whatever goes wrong ends
the run at that point, with one message and a status that is not zero; what has been recorded
before stays recorded.
-/

namespace MailFilter.CommandLine

/-- What a run can see besides its arguments. -/
structure Surroundings where
  files : Files
  environment : Environment
  input : String

/-- What a run leaves behind: its status, what it has written, the message it ended with if it
failed, and the records that the rules in force let through. -/
structure Outcome where
  status : Nat
  output : String := ""
  error : Option String := none
  log : List Log.Record := []
deriving DecidableEq, Repr

/-! ## The records of a run -/

/-- The settings are known. -/
def settingsLoaded : Log.Record where
  level := .debug
  target := "mailquery"
  message := "Configuration loaded"
  fields := ["message", "notation", "max_depth"]

/-- A decoded payload is about to be read. -/
def readingPayload : Log.Record where
  level := .debug
  target := "mailquery_core::notation::transformer"
  message := "Parsing filter payload"
  fields := ["message", "fallback"]

/-- A key that looks like an operator has been taken for a field. -/
def operatorAsField : Log.Record where
  level := .warn
  target := "mailquery_core::notation::transformer"
  message := "Unrecognized operator token treated as a field name"
  fields := ["message", "token"]

/-- A filter is about to be written in a dialect. -/
def writingFilter : Log.Record where
  level := .debug
  target := "mailquery_core::expression::filter"
  message := "Rendering filter"
  fields := ["message", "notation"]

/-- The payload is no filter. -/
def filterRejected : Log.Record where
  level := .error
  target := "mailquery"
  message := "Rejected filter"
  fields := ["message", "code"]

/-- The filter has been written. -/
def filterWritten : Log.Record where
  level := .info
  target := "mailquery"
  message := "Rendered filter"

/-! ## From a payload to a text -/

/-- Writes a filter as a payload or in a dialect, with the records of doing so. -/
def write (json : Bool) (settings : FilterSettings) (f : Filter) :
    List Log.Record × Except String String :=
  let before := if json then [] else [writingFilter]
  let written := if json then (f.toJson settings).map Json.compact else f.render settings
  match written with
  | .ok text => (before ++ [filterWritten], .ok text)
  | .error e => (before, .error e.message)

/-- The text of the filter that a payload describes, or the message of what is wrong with it,
with the records on the way. -/
def process (json : Bool) (settings : FilterSettings) (payload : String) :
    List Log.Record × Except String String :=
  match Json.read payload with
  | .error fault => ([filterRejected], .error (Error.ofFault payload fault).message)
  | .ok value =>
    let attempt := Filter.ofJson settings value
    let before := readingPayload :: attempt.warnings.map fun _ => operatorAsField
    match attempt.outcome with
    | .error e => (before ++ [filterRejected], .error (Error.ofPayload e).message)
    | .ok f =>
      let (after, result) := write json settings f
      (before ++ after, result)

/-! ## The whole run -/

/-- The settings of a run: those of the file that is asked for, or else those of the usual
places, changed as the arguments say. -/
def Arguments.settings (a : Arguments) (s : Surroundings) : Except SettingsError Settings := do
  let settings ←
    match a.config with
    | some path => Settings.ofFile (s.files path)
    | none => Settings.load Settings.usualPaths s.files Settings.usualWord s.environment
  let dialect := a.dialect.getD settings.filter.dialect
  let fallback := if a.permissive then .permissive else settings.filter.fallback
  pure { settings with filter := { settings.filter with dialect := dialect, fallback := fallback } }

/-- The payload of a run: the file that is asked for, or else the input. -/
def Arguments.payload (a : Arguments) (s : Surroundings) : Except String String :=
  match a.file with
  | none => .ok s.input
  | some name =>
    match (s.files name).text? with
    | some text => .ok text
    | none => .error ("Failed to read payload from " ++ name)

/-- The run that ends with a result. -/
def Outcome.ofResult (log : List Log.Record) : Except String String → Outcome
  | .ok text => { status := 0, output := text ++ "\n", log := log }
  | .error message => { status := 1, error := some message, log := log }

/-- A run that is asked for a filter. -/
def Arguments.run (a : Arguments) (s : Surroundings) : Outcome :=
  match a.settings s with
  | .error e => .ofResult [] (.error (Error.ofSettings e).message)
  | .ok settings =>
    -- nothing is recorded before the settings say what to write
    let rules := Log.rulesInForce (s.environment.lookup Log.rulesVariable) settings.logging.level
    let (records, result) :=
      match a.payload s with
      | .error message => ([], .error message)
      | .ok payload => process a.json settings.filter payload
    .ofResult ((settingsLoaded :: records).filter (Log.isWritten rules)) result

/-- The paths that a run may look at. -/
def Arguments.paths (a : Arguments) : List String :=
  let settings :=
    match a.config with
    | some path => [path]
    | none =>
      Settings.usualPaths ++
        Settings.usualPaths.filterMap (Files.extended? · Settings.fileExtension)
  settings ++ a.file.toList

/-- The name and the version of the program. -/
def versionText : String := "mailquery 0.1.0"

/-- What the program is and how it is called. -/
def helpText : String :=
  "Render mail search filters\n\n" ++
  "Usage: mailquery [OPTIONS] [FILE]\n\n" ++
  "Arguments:\n" ++
  "  [FILE]  Payload file; stdin when omitted\n\n" ++
  "Options:\n" ++
  "      --config <CONFIG>      Configuration file\n" ++
  "      --notation <NOTATION>  Output notation: polish or search-query\n" ++
  "      --permissive           Treat unrecognized keys as field names anywhere\n" ++
  "      --json                 Print the filter back as a payload\n" ++
  "  -h, --help                 Print help\n" ++
  "  -V, --version              Print version"

/-- A run of the program. -/
def run (args : List String) (s : Surroundings) : Outcome :=
  match Request.ofArguments args with
  | .filter a => a.run s
  | .version => { status := 0, output := versionText ++ "\n" }
  | .help => { status := 0, output := helpText ++ "\n" }
  | .misuse => { status := 2 }

end MailFilter.CommandLine
