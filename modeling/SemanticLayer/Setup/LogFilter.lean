import SemanticLayer.Setup.Error
import SemanticLayer.Setup.Pattern

/-!
# Log filters

A log filter is a list of directives between commas, of which empty ones are skipped. A directive
is a level, a target, or a target with a level after an equals sign; a target may be narrowed to a
span and its field in brackets. A level is a name, in capitals or not, or a number from 0 to 5;
after an equals sign it may be left out. A field may have a value behind an equals sign, a number or
a pattern; truth values are patterns as well.

Blanks around a directive are skipped, but one with an equals sign must not have any.
-/

namespace SemanticLayer.Setup

namespace LogFilter

/-- The names of the levels, in the order of their numbers. -/
def levelNames : List String :=
  ["off", "error", "warn", "info", "debug", "trace"]

/-- Whether a text is the number of a level. -/
def isLevelNumber (text : List Char) : Bool :=
  let digits := match text with
    | '+' :: rest => rest
    | rest => rest
  !digits.isEmpty && digits.all Char.isDigit &&
    Nat.ofDigitChars 10 digits 0 < levelNames.length

/-- Whether a text is a level. -/
def isLevel (text : List Char) : Bool :=
  isLevelNumber text || levelNames.contains (String.ofList (text.map Char.toLower))

/-- A text without the sign that it may start with. -/
def unsigned : List Char → List Char
  | '+' :: rest | '-' :: rest => rest
  | text => text

/-- Whether a text is nothing, or an exponent. -/
def isExponent : List Char → Bool
  | [] => true
  | c :: rest =>
    let digits := unsigned rest
    (c == 'e' || c == 'E') && !digits.isEmpty && digits.all Char.isDigit

/-- Whether a text is a number: digits with a point among them or not, perhaps with an exponent, or
the name of what is no finite number. -/
def isNumber (text : List Char) : Bool :=
  let (whole, rest) := (unsigned text).span Char.isDigit
  let (places, rest) := match rest with
    | '.' :: rest => rest.span Char.isDigit
    | rest => ([], rest)
  (!(whole ++ places).isEmpty && isExponent rest) ||
    ["inf", "infinity", "nan"].contains (String.ofList ((unsigned text).map Char.toLower))

/-- Whether a text is a field: a name that may be anything, or one with a value behind an equals
sign. What follows a second equals sign is skipped. -/
def isField (text : List Char) : Bool :=
  match text.splitOn '=' with
  | _ :: value :: _ => isNumber value || Pattern.isPattern value
  | _ => !text.isEmpty

/-- What follows a span, of which the bracket has been taken: a name, perhaps with a field in
braces, and the closing bracket. -/
def afterSpan? (text : List Char) : Option (List Char) :=
  match text.dropWhile fun c ↦ c != ']' && c != '\x7b' with
  | ']' :: rest => some rest
  | '\x7b' :: rest =>
    match rest.dropWhile (· != '\x7d') with
    | '\x7d' :: ']' :: after => if isField (rest.takeWhile (· != '\x7d')) then some after else none
    | _ => none
  | _ => none

/-- Whether a character may start a level or a target. -/
def startsTarget (c : Char) : Bool :=
  Text.isAlphanumeric c || c == '-' || c == ':' || c == '_'

/-- What follows the target and the span of a directive: nothing, or its level with an equals
sign. A bare level is a target as far as this goes. -/
def afterTarget? : List Char → Option (List Char)
  | [] => none
  | '[' :: rest => afterSpan? rest
  | c :: rest =>
    if startsTarget c then
      match rest.dropWhile fun c ↦ c != '=' && c != '[' with
      | '[' :: rest => afterSpan? rest
      | rest => some rest
    else none

/-- Whether a text is a directive, perhaps with blanks around it. -/
def isDirective (text : List Char) : Bool :=
  match afterTarget? (Text.trim text) with
  | some [] => true
  | some ('=' :: level) => Text.trim text == text && (level.isEmpty || isLevel level)
  | _ => false

/-- Whether a text is a log filter. -/
def isAccepted (directives : String) : Bool :=
  (directives.toList.splitOn ',').all fun part ↦ part.isEmpty || isDirective part

/-- The log filter itself, if it is one. -/
def check (directives : String) : Except SettingsError String :=
  if isAccepted directives then .ok directives else .error (.invalidLogFilter directives)

end LogFilter

end SemanticLayer.Setup
