import SemanticLayer.Response.Error
import SemanticLayer.Setup.Error
import SemanticLayer.Sql.Error

/-!
# Failures of any part

The errors of the three parts of the library together, for those who use more than one of them, and
the kinds into which they fall.
-/

namespace SemanticLayer

/-- The kind of a failure, for those who only need to know whom it concerns. -/
inductive FailureKind where
  /-- A column belongs to a member that must not be seen. -/
  | visibility
  /-- A query, a request or the settings are malformed. -/
  | configuration
  /-- A dialect was asked for something that it does not offer. -/
  | dialectContract
  deriving DecidableEq, Repr

/-- The name of a kind of failure. -/
def FailureKind.name : FailureKind → String
  | visibility => "Visibility"
  | configuration => "Configuration"
  | dialectContract => "DialectContract"

/-- An error of any part. -/
inductive Failure where
  | sql (error : Sql.SqlError)
  | response (error : Response.ResponseError)
  | settings (error : Setup.SettingsError)
  deriving DecidableEq, Repr

namespace Failure

/-- The kind of a failure: only a hidden member concerns visibility. -/
def kind : Failure → FailureKind
  | sql _ => .dialectContract
  | response (.hiddenMember _ _) => .visibility
  | response _ => .configuration
  | settings _ => .configuration

/-- The wording of a failure is that of its error. -/
def message : Failure → String
  | sql error => error.message
  | response error => error.message
  | settings error => error.message

end Failure

end SemanticLayer
