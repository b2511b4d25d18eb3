import SemanticLayer.Setup.Error
import SemanticLayer.Text.Alphanumeric

/-!
# References to variables

A text may refer to variables of its environment: by a name in braces after a dollar sign, which
goes up to the next closing brace or the end of the text, or by a dollar sign and the longest run
of letters, numbers and underscores of any script. A dollar sign with neither stands for itself.

The text is read once, from the left, as *tokens*. Values are inserted as they are and are not read
again. The first variable that is not defined is an error.
-/

namespace SemanticLayer.Setup

/-- The values of the variables that are defined. -/
abbrev Environment := String → Option String

/-- A part of a text that may refer to variables. -/
inductive Token where
  /-- A character that stands for itself. -/
  | char (c : Char)
  /-- A reference to a variable. -/
  | reference (name : List Char)
  deriving DecidableEq, Repr

/-- Whether a character may stand in a name without braces. -/
def isNameChar (c : Char) : Bool :=
  Text.isAlphanumeric c || c == '_'

/-- The tokens of a text, from the left. -/
def tokens : List Char → List Token
  | [] => []
  | c :: text =>
    if c = '$' then
      match text with
      | '\x7b' :: rest =>
        .reference (rest.takeWhile (· != '\x7d')) :: tokens ((rest.dropWhile (· != '\x7d')).drop 1)
      | text =>
        if (text.takeWhile isNameChar).isEmpty then .char c :: tokens text
        else .reference (text.takeWhile isNameChar) :: tokens (text.dropWhile isNameChar)
    else .char c :: tokens text
termination_by text => text.length
decreasing_by
  · have := (List.dropWhile_sublist (· != '\x7d') (l := rest)).length_le
    simp only [List.length_cons, List.length_drop]
    omega
  · simp
  · have := (List.dropWhile_sublist isNameChar (l := text)).length_le
    simp only [List.length_cons]
    omega
  · simp

/-- The names of the variables that a text refers to, in order. -/
def referencedNames (text : String) : List String :=
  (tokens text.toList).filterMap fun
    | .char _ => none
    | .reference name => some (String.ofList name)

/-- The characters that a token stands for. -/
def Token.expand (env : Environment) : Token → Except SettingsError (List Char)
  | char c => .ok [c]
  | reference name =>
    match env (String.ofList name) with
    | some value => .ok value.toList
    | none => .error (.missingVariable (String.ofList name))

/-- The text with the values of the variables it refers to. -/
def expand (env : Environment) (text : String) : Except SettingsError String := do
  let parts ← (tokens text.toList).mapM (Token.expand env)
  return String.ofList parts.flatten

end SemanticLayer.Setup
