/-!
# Errors of settings

Why settings cannot be loaded or used. `SettingsError.message` gives each cause its wording; what
exactly is wrong with a malformed file or filter is not part of it.
-/

namespace SemanticLayer.Setup

/-- An error of settings. -/
inductive SettingsError where
  /-- The file does not exist. -/
  | notFound (path : String)
  /-- The file exists but cannot be read. -/
  | unreadable (reason : String)
  /-- The file is no document of settings. -/
  | malformed
  /-- A variable that is referred to is not defined. -/
  | missingVariable (name : String)
  /-- The timezone is none. -/
  | invalidTimezone (timezone : String)
  /-- The log filter is none. -/
  | invalidLogFilter (directives : String)
  deriving DecidableEq, Repr

/-- The wording of an error. -/
def SettingsError.message : SettingsError → String
  | notFound path => "Config file not found: " ++ path
  | unreadable reason => "Failed to read config file: " ++ reason
  | malformed => "Failed to parse config file"
  | missingVariable name => "Missing environment variable: " ++ name
  | invalidTimezone timezone => "Invalid configuration: Invalid timezone '" ++ timezone ++ "'"
  | invalidLogFilter directives =>
    "Invalid configuration: invalid log filter '" ++ directives ++ "'"

end SemanticLayer.Setup
