import SemanticLayer.Command.Arguments
import SemanticLayer.Failure
import SemanticLayer.Setup.Basic
import SemanticLayer.Sql.DateSeries

/-!
# Running the command line

The program loads its settings, checks its log filter and carries out a task. What it needs from
outside, variables and files, it asks of its `Surroundings`; everything else is a function of the
answers. The surroundings may be the real ones or a table of files, so the whole program can be run
and reasoned about without leaving the language.

Settings come from the path that is given, else from the one that the variable `PRISM_CONFIG` names,
else from `prism.toml`, else from the user's own settings, else from the defaults.
-/

namespace SemanticLayer.Command

open Response (RequestFault ResponseError Batch)
open Setup (Settings SettingsError Environment)
open Sql (Dialect)

/-! ### Surroundings -/

/-- What is found at a path. -/
inductive FileContent where
  /-- A file with a text. -/
  | text (content : String)
  /-- Something that cannot be read as a text, or nothing. -/
  | unreadable (isPresent : Bool) (reason : String)
  deriving DecidableEq, Repr

/-- What the program can ask of its surroundings. -/
structure Surroundings (m : Type → Type) where
  /-- The value of a variable. -/
  getVariable : String → m (Option String)
  /-- What is found at a path. -/
  file : String → m FileContent
  /-- The directory of the user's settings. -/
  userDirectory? : m (Option String)

/-! ### Outcomes -/

/-- Why a task fails. -/
inductive CommandError where
  /-- The settings cannot be loaded, or their log filter is wrong. -/
  | configuration (error : SettingsError)
  /-- A file of requests cannot be read. -/
  | unreadableFile (path reason : String)
  /-- A file holds no requests. -/
  | invalidRequest (path : String) (fault : RequestFault)
  /-- A request has no response. -/
  | transform (error : ResponseError)
  /-- A primitive has no text. -/
  | primitives (error : Failure)
  deriving DecidableEq, Repr

/-- The line that reports an error. -/
def CommandError.message : CommandError → String
  | configuration error => "Configuration error: " ++ error.message
  | unreadableFile path reason => "Error reading file '" ++ path ++ "': " ++ reason
  | invalidRequest path .malformed => "Invalid request '" ++ path ++ "'"
  | invalidRequest path .unrecognized =>
    "Invalid request '" ++ path ++
      "': data did not match any variant of untagged enum TransformInput"
  | transform error => "Transform error: " ++ error.message
  | primitives error => "Error: " ++ error.message

/-- How a run of the program ends. -/
inductive Outcome where
  /-- It has written a text. -/
  | success (output : String)
  /-- It has failed. -/
  | failure (error : CommandError)
  /-- Its arguments were wrong. -/
  | badUsage
  deriving DecidableEq, Repr

/-- The version that the program reports. -/
def versionLine : String := "prism 0.1.0\n"

/-- How the program is used. -/
def usage : String :=
  "Prism - SQL primitives and result shaping for analytical queries\n\n" ++
  "Usage: prism [OPTIONS] <COMMAND>\n\n" ++
  "Commands:\n" ++
  "  transform <FILE> [--compact] [--pretty]\n" ++
  "  primitives --column <COLUMN> [--dialect <DIALECT>] [--granularity <GRANULARITY>]\n" ++
  "             [--timezone <TIMEZONE>] [--from <FROM>] [--to <TO>]\n" ++
  "  dialects\n\n" ++
  "Options:\n" ++
  "      --config <CONFIG>\n" ++
  "  -h, --help\n" ++
  "  -V, --version\n"

namespace Outcome

/-- The exit code of the program. -/
def exitCode : Outcome → UInt32
  | success _ => 0
  | failure _ => 1
  | badUsage => 2

/-- What the program has written to its standard output. -/
def output : Outcome → String
  | success output => output
  | failure _ => ""
  | badUsage => ""

/-- What the program has written to its standard error. -/
def report : Outcome → String
  | success _ => ""
  | failure error => error.message ++ "\n"
  | badUsage => usage

end Outcome

/-! ### Loading settings -/

variable {m : Type → Type} [Monad m]

/-- The settings of what was found at a path. -/
def settingsOf (path : String) : FileContent → Except SettingsError Settings
  | .text content => Settings.ofToml content
  | .unreadable true reason => .error (.unreadable reason)
  | .unreadable false _ => .error (.notFound path)

/-- Whether something is found at a path. -/
def FileContent.isPresent : FileContent → Bool
  | text _ => true
  | unreadable isPresent _ => isPresent

/-- The settings of the first of several paths at which something is found. -/
def firstSettings (surroundings : Surroundings m) :
    List String → m (Except SettingsError Settings)
  | [] => return .ok .default
  | path :: paths => do
    let content ← surroundings.file path
    if content.isPresent then return settingsOf path content
    else firstSettings surroundings paths

/-- The settings of a run. -/
def loadSettings (surroundings : Surroundings m) (config : Option String) :
    m (Except SettingsError Settings) := do
  let named ← surroundings.getVariable "PRISM_CONFIG"
  match config.or named with
  | some path => return settingsOf path (← surroundings.file path)
  | none =>
    let user := (← surroundings.userDirectory?).map (· ++ "/prism/config.toml")
    firstSettings surroundings ("prism.toml" :: user.toList)

/-- The variables that a text refers to. -/
def environmentOf (surroundings : Surroundings m) (text : String) : m Environment := do
  let values ← (Setup.referencedNames text).mapM fun name ↦ do
    return (name, ← surroundings.getVariable name)
  return fun name ↦ (values.lookup name).join

/-- The log filter of a run: that of the variable `RUST_LOG`, else that of the settings. -/
def checkLogFilter (surroundings : Surroundings m) (settings : Settings) :
    m (Except SettingsError String) := do
  match ← surroundings.getVariable "RUST_LOG" with
  | some directives => return Setup.LogFilter.check directives
  | none =>
    return settings.checkedLogFilter (← environmentOf surroundings settings.logFilter)

/-! ### Tasks -/

/-- The response to the requests of a text, as it is written. -/
def transformText (settings : Settings) (file text : String) (compact pretty : Bool) :
    Except CommandError String := do
  let batch ← (Batch.ofText text).mapError fun
    | .invalidRequest fault => CommandError.invalidRequest file fault
    | error => .transform error
  let options :=
    if compact then { settings.options with shape := .compact } else settings.options
  let responses ← (options.respondBatch batch).mapError .transform
  let document := responses.toJson
  return (if pretty then document.renderPretty else document.render) ++ "\n"

/-- The lines of the task `primitives`: the name of each primitive and its text. -/
def primitiveLines (settings : Settings) (env : Environment) (options : PrimitiveOptions) :
    Except Failure (List (String × String)) := do
  let dialect ← match options.dialect with
    | some name => (Dialect.parse name).mapError Failure.sql
    | none => pure settings.dialect
  let timezone ← match options.timezone with
    | some timezone => pure timezone
    | none => (settings.resolvedTimezone env).mapError Failure.settings
  let column := options.column
  let parameter := dialect.placeholder 1
  let converted ← (dialect.convertTimezone column timezone).mapError Failure.sql
  let lines :=
    [("convert_timezone", converted),
     ("cast_timestamp_literal", dialect.castTimestampLiteral parameter),
     ("cast_date_time", dialect.castDateTime column),
     ("timestamp_parse_format", dialect.timestampPattern),
     ("current_unix_timestamp", dialect.unixTime),
     ("escape_identifier", dialect.identifier column),
     ("concat_strings", dialect.concat [column, "'-'"]),
     ("boolean_indicator", dialect.indicator (column ++ " IS NOT NULL")),
     ("param_placeholder", parameter),
     ("like_ignore_case", dialect.like column false .contains parameter),
     ("cast_parameter", dialect.castParameter parameter .number)]
  let title := ("dialect", dialect.name)
  match options.granularity with
  | none => return title :: lines
  | some name =>
    match Calendar.Granularity.ofName? name with
    | none => throw (.sql (.unknownGranularity name))
    | some g =>
      let series ← match options.first, options.last with
        | some first, some last => do
          let ranges ← (Sql.timeSeries g first last).mapError Failure.sql
          let sql ← (dialect.dateSeries ranges).mapError Failure.sql
          pure [("generate_date_series", sql)]
        | _, _ => pure []
      return title :: ("truncate_to_granularity", dialect.truncate g column) :: (lines ++ series)

/-- A line with a name, filled up to a common width, and a text. -/
def tableLine (name text : String) : String :=
  name ++ String.ofList (List.replicate (24 - name.length) ' ') ++ " " ++ text ++ "\n"

/-- The list of the dialects, with the default one marked. -/
def dialectLines (settings : Settings) : String :=
  String.join (Dialect.all.map fun dialect ↦
    dialect.name ++ (if dialect = settings.dialect then " (default)" else "") ++ "\n")

/-- Carries out a task. -/
def Task.run (surroundings : Surroundings m) (settings : Settings) : Task → m Outcome
  | .transform file compact pretty => do
    match ← surroundings.file file with
    | .unreadable _ reason => return .failure (.unreadableFile file reason)
    | .text content =>
      match transformText settings file content compact pretty with
      | .ok output => return .success output
      | .error error => return .failure error
  | .primitives options => do
    let env ← environmentOf surroundings settings.timezone
    match primitiveLines settings env options with
    | .ok lines => return .success (String.join (lines.map fun line ↦ tableLine line.1 line.2))
    | .error error => return .failure (.primitives error)
  | .dialects => return .success (dialectLines settings)

/-- Runs the program with the given arguments. -/
def run (surroundings : Surroundings m) (arguments : List String) : m Outcome := do
  match parseArguments? arguments with
  | none => return .badUsage
  | some .version => return .success versionLine
  | some .help => return .success usage
  | some (.task config task) =>
    match ← loadSettings surroundings config with
    | .error error => return .failure (.configuration error)
    | .ok settings =>
      match ← checkLogFilter surroundings settings with
      | .error error => return .failure (.configuration error)
      | .ok _ => task.run surroundings settings

end SemanticLayer.Command
