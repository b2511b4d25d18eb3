import SemanticLayer.Json.Value
import SemanticLayer.Query.Codec
import SemanticLayer.Response.Request
import SemanticLayer.Setup.Environment
import SemanticLayer.Setup.LogFilter
import SemanticLayer.Sql.Dialect
import SemanticLayer.Toml.Document

/-!
# Settings

The settings of the program: the default dialect and timezone, how requests are responded to, and
what is logged. Settings are read from a TOML document in which everything may be left out and
unknown keys are ignored. The timezone and the log filter may refer to variables, which are
resolved when they are used.

A section is usually a table. It may also be the list of its values in order, which then may be
short; and a date, having no keys, leaves all defaults in place.
-/

namespace SemanticLayer.Setup

open Query (Shape)
open Sql (Dialect)

/-! ### The settings -/

/-- The settings of the program. -/
structure Settings where
  /-- The dialect when none is named. -/
  dialect : Dialect
  /-- The timezone when none is named; it may refer to variables. -/
  timezone : String
  /-- The shape of responses to requests that name none. -/
  shape : Shape
  /-- Whether a summary of each response is logged. -/
  logsSummaries : Bool
  /-- The log filter; it may refer to variables. -/
  logFilter : String
  deriving DecidableEq, Repr

namespace Settings

/-- The settings when nothing is set. -/
def default : Settings :=
  ⟨.vertica, "UTC", .vanilla, false, "prism=info"⟩

/-- How requests are responded to. -/
def options (settings : Settings) : Response.Options :=
  ⟨settings.shape, settings.logsSummaries⟩

/-- The timezone with its variables resolved. -/
def resolvedTimezone (settings : Settings) (env : Environment) :
    Except SettingsError String := do
  let timezone ← expand env settings.timezone
  if Sql.Timezone.isAccepted timezone then return timezone
  else throw (.invalidTimezone timezone)

/-- The log filter with its variables resolved. -/
def resolvedLogFilter (settings : Settings) (env : Environment) : Except SettingsError String :=
  expand env settings.logFilter

/-- The log filter with its variables resolved, if it is one. -/
def checkedLogFilter (settings : Settings) (env : Environment) : Except SettingsError String := do
  LogFilter.check (← settings.resolvedLogFilter env)

/-! ### Written settings -/

/-- Settings as a document, by section. -/
def toJson (settings : Settings) : Json.Value :=
  .object
    [("dialect", .object
      [("default", .string settings.dialect.name), ("timezone", .string settings.timezone)]),
     ("transform", .object
      [("result_type", settings.shape.toJson), ("debug_logging", .bool settings.logsSummaries)]),
     ("logging", .object [("filter", .string settings.logFilter)])]

/-! ### Reading settings -/

/-- The values of a section's keys. -/
def entriesOf? (keys : List String) : Toml.Value → Option (List (String × Toml.Value))
  | .table entries => some entries
  | .array items => some (keys.zip items)
  | .scalar .dateTime => some []
  | _ => none

/-- The value of a key, or a default if the key is absent. -/
def setting? {α : Type} (read : Toml.Value → Option α) (absent : α)
    (entries : List (String × Toml.Value)) (key : String) : Option α :=
  match entries.lookup key with
  | some value => read value
  | none => some absent

/-- A string. -/
def string? : Toml.Value → Option String
  | .string value => some value
  | _ => none

/-- A truth value. -/
def bool? : Toml.Value → Option Bool
  | .scalar (.bool value) => some value
  | _ => none

/-- A name: a string, or a table whose only entry has that key and nothing inside. -/
def name? : Toml.Value → Option String
  | .string value => some value
  | .table [(key, .table [])] => some key
  | .table [(key, .array [])] => some key
  | _ => none

/-- The settings of a document. -/
def ofEntries? (entries : List (String × Toml.Value)) : Option Settings := do
  let empty : Toml.Value := .table []
  let dialect ← entriesOf? ["default", "timezone"] ((entries.lookup "dialect").getD empty)
  let transform ←
    entriesOf? ["result_type", "debug_logging"] ((entries.lookup "transform").getD empty)
  let logging ← entriesOf? ["filter"] ((entries.lookup "logging").getD empty)
  let name ← setting? (fun v ↦ (name? v).bind Dialect.ofName?) default.dialect dialect "default"
  let timezone ← setting? string? default.timezone dialect "timezone"
  let shape ← setting? (fun v ↦ (name? v).bind Shape.ofName?) default.shape transform "result_type"
  let logs ← setting? bool? default.logsSummaries transform "debug_logging"
  let filter ← setting? string? default.logFilter logging "filter"
  return ⟨name, timezone, shape, logs, filter⟩

/-- The settings that a text gives. -/
def ofToml (text : String) : Except SettingsError Settings :=
  match (Toml.parse? text).bind ofEntries? with
  | some settings => .ok settings
  | none => .error .malformed

end Settings

end SemanticLayer.Setup
