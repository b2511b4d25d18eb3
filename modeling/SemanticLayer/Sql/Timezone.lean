import SemanticLayer.Sql.Error
import SemanticLayer.Text.DecimalDigit

/-!
# Timezones

A timezone is written into SQL text, so only two forms are let through. A named zone is a list of
parts between slashes, made of ASCII letters, digits, `_`, `+` and `-`; no part is empty and the
first character is a letter. An offset is a sign and two digits, with two more after an optional
colon; its digits may be of any script.
-/

namespace SemanticLayer.Sql

namespace Timezone

/-- The characters of a named zone, slashes apart. -/
def isNameChar (c : Char) : Bool :=
  c.isAlphanum || c == '_' || c == '+' || c == '-'

/-- Whether a text is a named zone. -/
def isName (text : List Char) : Bool :=
  (match text with
    | [] => false
    | c :: _ => c.isAlpha) &&
  (text.splitOn '/').all fun part ↦ !part.isEmpty && part.all isNameChar

/-- Whether a text is two digits. -/
def isTwoDigits : List Char → Bool
  | [a, b] => Text.isDecimalDigit a && Text.isDecimalDigit b
  | _ => false

/-- Whether a text is an offset. -/
def isOffset : List Char → Bool
  | sign :: a :: b :: rest =>
    (sign == '+' || sign == '-') && isTwoDigits [a, b] &&
      match rest with
      | [] => true
      | ':' :: minutes => isTwoDigits minutes
      | minutes => isTwoDigits minutes
  | _ => false

/-- Whether a text may be written into SQL as a timezone. -/
def isAccepted (timezone : String) : Bool :=
  isName timezone.toList || isOffset timezone.toList

/-- The timezone itself, if it is accepted. -/
def check (timezone : String) : Except SqlError String :=
  if isAccepted timezone then .ok timezone else .error (.invalidTimezone timezone)

end Timezone

end SemanticLayer.Sql
