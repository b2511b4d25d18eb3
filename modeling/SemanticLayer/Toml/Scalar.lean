import SemanticLayer.Calendar.Date
import SemanticLayer.Number.Binary64
import SemanticLayer.Toml.Lexeme

/-!
# Scalars of TOML

The values that are written without quotes and brackets: truth values, whole numbers, fractions,
dates and times. A scalar is the longest run of the characters that scalars are made of, and the
run as a whole must be one of their forms.

Whole numbers may have up to 128 bits and fractions must not exceed every finite one; other numbers
are errors. Dates and times are checked against the calendar and then only known to be what they
are, since no setting is one.
-/

namespace SemanticLayer.Toml

open SemanticLayer.Number (Binary64)

/-- A value that is written without quotes and brackets. -/
inductive Scalar where
  | bool (value : Bool)
  | integer (value : Int)
  /-- A number with a fraction or an exponent, an infinity, or no number at all. -/
  | float
  /-- A date, a time, or both. -/
  | dateTime
  deriving DecidableEq, Repr

namespace Scalar

/-! ### Numbers -/

/-- Digits with single underscores between them, without the underscores. -/
def digitRun? (isDigit : Char → Bool) (text : List Char) : Option (List Char) :=
  let parts := text.splitOn '_'
  if parts.all fun part ↦ !part.isEmpty && part.all isDigit then some parts.flatten else none

/-- Splits off a sign; true for a minus. -/
def splitSign : List Char → Bool × List Char
  | '-' :: rest => (true, rest)
  | '+' :: rest => (false, rest)
  | rest => (false, rest)

/-- The digits of a decimal whole number, which has no leading zero. -/
def wholeDigits? (text : List Char) : Option (List Char) :=
  match digitRun? Char.isDigit text with
  | some ('0' :: _ :: _) => none
  | digits => digits

/-- A whole number in a base that is a power of two, after the letter of its base. -/
def based? (base : Nat) (isDigit : Char → Bool) (text : List Char) : Option Int := do
  let digits ← digitRun? isDigit text
  let value ← hexValueIn base digits
  return (value : Int)
where
  /-- The value of digits in a base. -/
  hexValueIn (base : Nat) (digits : List Char) : Option Nat :=
    digits.foldlM (fun value c ↦ (hexValue? [c]).map (base * value + ·)) 0

/-- The smallest whole number, that of 128 bits with a sign. -/
def minInteger : Int := -170141183460469231731687303715884105728

/-- The largest whole number, that of 128 bits without a sign. -/
def maxInteger : Int := 340282366920938463463374607431768211455

/-- A whole number of at most 128 bits. -/
def integer? (text : List Char) : Option Int := do
  let value ← match text with
    | '0' :: 'x' :: rest => based? 16 (fun c ↦ (hexValue? [c]).isSome) rest
    | '0' :: 'o' :: rest => based? 8 (fun c ↦ '0' ≤ c && c ≤ '7') rest
    | '0' :: 'b' :: rest => based? 2 (fun c ↦ c == '0' || c == '1') rest
    | text =>
      let (negative, rest) := splitSign text
      (wholeDigits? rest).map fun digits ↦
        let size : Int := Nat.ofDigitChars 10 digits 0
        if negative then -size else size
  if minInteger ≤ value ∧ value ≤ maxInteger then some value else none

/-- The digits after a point, which may be missing with it. -/
def places? : List Char → Option (List Char)
  | [] => some []
  | '.' :: rest => digitRun? Char.isDigit rest
  | _ => none

/-- The power of ten after the letter of an exponent. -/
def power? (text : List Char) : Option Int :=
  let (negative, rest) := splitSign text
  (digitRun? Char.isDigit rest).map fun digits ↦
    let size : Int := Nat.ofDigitChars 10 digits 0
    if negative then -size else size

/-- Whether a text is a fraction within the range of finite ones. -/
def isFinite (text : List Char) : Bool :=
  let (_, rest) := splitSign text
  let isMark (c : Char) := c == 'e' || c == 'E'
  let significand := rest.takeWhile (!isMark ·)
  let exponent := rest.dropWhile (!isMark ·)
  let whole := significand.takeWhile (· != '.')
  let fraction := significand.dropWhile (· != '.')
  match wholeDigits? whole, places? fraction, power? (exponent.drop 1) with
  | some whole, some places, power =>
    if exponent.isEmpty ∧ fraction.isEmpty then false
    else if exponent.isEmpty then
      (Binary64.ofDecimal? false (Nat.ofDigitChars 10 (whole ++ places) 0)
        (-(places.length : Int))).isSome
    else match power with
      | some power =>
        (Binary64.ofDecimal? false (Nat.ofDigitChars 10 (whole ++ places) 0)
          (power - places.length)).isSome
      | none => false
  | _, _, _ => false

/-- Whether a text is an infinity or no number. -/
def isSpecial (text : List Char) : Bool :=
  let (_, rest) := splitSign text
  rest == ['i', 'n', 'f'] || rest == ['n', 'a', 'n']

/-! ### Dates and times -/

/-- A number of exactly so many digits, and the rest. -/
def fixed? (count : Nat) (text : List Char) : Option (Nat × List Char) :=
  let digits := text.take count
  if digits.length = count ∧ digits.all Char.isDigit then
    some (Nat.ofDigitChars 10 digits 0, text.drop count)
  else none

/-- What follows a given character. -/
def after? (c : Char) : List Char → Option (List Char)
  | d :: rest => if d = c then some rest else none
  | [] => none

/-- What follows a valid date. -/
def afterDate? (text : List Char) : Option (List Char) := do
  let (year, rest) ← fixed? 4 text
  let (month, rest) ← fixed? 2 (← after? '-' rest)
  let (day, rest) ← fixed? 2 (← after? '-' rest)
  if (Calendar.Civil.mk year month day).IsValid then some rest else none

/-- What follows a fraction of a second, if there is one. -/
def afterPlaces? : List Char → Option (List Char)
  | '.' :: rest =>
    if (rest.takeWhile Char.isDigit).isEmpty then none else some (rest.dropWhile Char.isDigit)
  | rest => some rest

/-- What follows the seconds of a time, if there are any. -/
def afterSeconds? : List Char → Option (List Char)
  | ':' :: rest => do
    let (second, rest) ← fixed? 2 rest
    if second ≤ 60 then afterPlaces? rest else none
  | rest => some rest

/-- What follows a valid time. -/
def afterTime? (text : List Char) : Option (List Char) := do
  let (hour, rest) ← fixed? 2 text
  let (minute, rest) ← fixed? 2 (← after? ':' rest)
  if hour < 24 ∧ minute < 60 then afterSeconds? rest else none

/-- Whether a text is an offset, or empty. -/
def isOffset : List Char → Bool
  | [] => true
  | ['Z'] => true
  | ['z'] => true
  | sign :: rest =>
    (sign == '+' || sign == '-') &&
      match fixed? 2 rest with
      | some (hours, ':' :: rest) =>
        match fixed? 2 rest with
        | some (minutes, []) => hours < 24 && minutes < 60
        | _ => false
      | _ => false

/-- Whether a text is a date, a time, or both with or without an offset. -/
def isDateTime (text : List Char) : Bool :=
  match afterDate? text with
  | some [] => true
  | some (c :: rest) =>
    (c == 'T' || c == 't' || c == ' ') &&
      match afterTime? rest with
      | some rest => isOffset rest
      | none => false
  | none => afterTime? text == some []

/-! ### Taking a scalar -/

/-- The characters of scalars. -/
def isScalarChar (c : Char) : Bool :=
  c.isAlphanum || c == '+' || c == '-' || c == '_' || c == '.' || c == ':'

/-- The scalar that a run of characters is. -/
def ofRun? (run : List Char) : Option Scalar :=
  if run = ['t', 'r', 'u', 'e'] then some (bool true)
  else if run = ['f', 'a', 'l', 's', 'e'] then some (bool false)
  else match integer? run with
    | some value => some (integer value)
    | none =>
      if isFinite run || isSpecial run then some float
      else if isDateTime run then some dateTime
      else none

/-- Takes a scalar. A date goes on after a single blank if a digit follows it. -/
def take (text : List Char) : Option (Scalar × List Char) :=
  let run := text.takeWhile isScalarChar
  let rest := text.dropWhile isScalarChar
  let goesOn := afterDate? run == some [] && rest.head? == some ' ' &&
    ((rest.drop 1).head?.map Char.isDigit).getD false
  if goesOn then
    let time := (rest.drop 1).takeWhile isScalarChar
    (ofRun? (run ++ ' ' :: time)).map (·, (rest.drop 1).dropWhile isScalarChar)
  else (ofRun? run).map (·, rest)

end Scalar

end SemanticLayer.Toml
