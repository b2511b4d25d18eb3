import SemanticLayer.Number.Scaling
import SemanticLayer.Number.Shortest

/-!
# Numbers in documents

A number is a whole number when it is written without fraction and exponent and fits 64 bits,
signed or unsigned; every other number is a binary fraction. The difference shows when the number
is written again: `5` stays `5`, and `5.0` stays `5.0`.

A binary fraction is read in rounded steps: the leading digits that fit an unsigned word of 64 bits
become a fraction, which is then scaled by the power of ten that the point, the exponent and the
digits left over amount to. For numbers of up to fifteen digits and moderate size this is the
fraction nearest to the number; beyond that it may be a neighbour of the nearest one.

A minus sign before a zero belongs to the number, so `-0` is the binary fraction of that sign.
-/

namespace SemanticLayer.Json

open SemanticLayer.Number (Binary64)

/-- The smallest signed number of 64 bits, `-2 ^ 63`. -/
abbrev minSigned : Int := -9223372036854775808

/-- The largest signed number of 64 bits, `2 ^ 63 - 1`. -/
abbrev maxSigned : Int := 9223372036854775807

/-- The largest unsigned number of 64 bits, `2 ^ 64 - 1`. -/
abbrev maxUnsigned : Nat := 18446744073709551615

/-- The whole numbers that fit 64 bits, signed or unsigned. -/
def IsWord (value : Int) : Prop :=
  minSigned ≤ value ∧ value ≤ maxUnsigned

instance (value : Int) : Decidable (IsWord value) := by
  unfold IsWord
  infer_instance

/-- A number of a document. -/
inductive Number where
  /-- A whole number of at most 64 bits. -/
  | whole (value : Int) (inRange : IsWord value)
  /-- A binary fraction. -/
  | fraction (value : Binary64)
  deriving DecidableEq

namespace Number

/-- A whole number, if it fits. -/
def ofInt? (value : Int) : Option Number :=
  if h : IsWord value then some (whole value h) else none

/-- Whether the number is zero, with either sign. -/
def isZero : Number → Bool
  | whole value _ => value == 0
  | fraction value => value.isZero

/-- The nearest signed whole number of 64 bits on the side of zero. -/
def toSigned : Number → Int
  | whole value _ => min value maxSigned
  | fraction value => max minSigned (min value.truncate maxSigned)

/-- An unsigned whole number. -/
def ofUInt64 (n : UInt64) : Number :=
  whole n.toNat (by have := n.toNat_lt; unfold IsWord minSigned maxUnsigned; omega)

/-- The number as an unsigned whole number, if it is one. -/
def toUInt64? : Number → Option UInt64
  | whole value _ => if 0 ≤ value then some (UInt64.ofNat value.toNat) else none
  | fraction _ => none

@[simp] theorem toUInt64?_ofUInt64 (n : UInt64) : (ofUInt64 n).toUInt64? = some n := by
  simp [ofUInt64, toUInt64?]

/-! ### The written form -/

/-- A whole number in decimal. -/
def renderInt (value : Int) : String :=
  String.ofList
    ((if value < 0 then ['-'] else []) ++ Nat.toDigits 10 value.natAbs)

/-- The number as it is written. -/
def render : Number → String
  | whole value _ => renderInt value
  | fraction value => value.render

/-! ### Reading -/

/-- The parts of a written number. -/
structure Literal where
  /-- Whether a minus sign stands in front. -/
  negative : Bool
  /-- The digits before the point. -/
  whole : List Char
  /-- The digits after the point, if there is one. -/
  fraction : Option (List Char)
  /-- The exponent with its sign, if there is one. -/
  exponent : Option (Bool × List Char)
  deriving DecidableEq, Repr

/-- The number that a run of digits stands for. -/
def digitsValue (digits : List Char) : Nat :=
  Nat.ofDigitChars 10 digits 0

/-- The power of ten that the exponent of a literal asks for. -/
def Literal.power (l : Literal) : Int :=
  match l.exponent with
  | none => 0
  | some (negative, digits) => if negative then -(digitsValue digits : Int) else digitsValue digits

/-- The binary fraction nearest to a literal; none if it exceeds every finite one. -/
def Literal.nearest? (l : Literal) : Option Binary64 :=
  let places := l.fraction.getD []
  Binary64.ofDecimal? l.negative (digitsValue (l.whole ++ places)) (l.power - places.length)

/-- Appends digits to a number as long as it fits an unsigned word, and gives the digits left. -/
def takeSignificand (value : Nat) : List Char → Nat × List Char
  | [] => (value, [])
  | digit :: rest =>
    let next := 10 * value + digitsValue [digit]
    if next ≤ maxUnsigned then takeSignificand next rest else (value, digit :: rest)

/-- The significand of a literal and its power of ten. Digits before the point that do not fit
raise the power, digits after it that do not fit are dropped. -/
def Literal.scaled (l : Literal) : Nat × Int :=
  let (value, left) := takeSignificand 0 l.whole
  let places := l.fraction.getD []
  let (value, dropped) := takeSignificand value places
  (value, left.length + dropped.length - places.length + l.power)

/-- The binary fraction that a literal is read as; none if it exceeds every finite one. -/
def Literal.fraction? (l : Literal) : Option Binary64 := do
  let (value, power) := l.scaled
  (← Binary64.ofQuotient? l.negative value 1).scale? power

/-- The whole number that a literal stands for, if it has neither point nor exponent, fits, and is
no negative zero. -/
def Literal.whole? (l : Literal) : Option Number :=
  let size := digitsValue l.whole
  if l.fraction.isSome ∨ l.exponent.isSome ∨ (l.negative ∧ size = 0) then none
  else ofInt? (if l.negative then -size else size)

/-- The number that a literal stands for; none if it exceeds every finite binary fraction. -/
def ofLiteral? (l : Literal) : Option Number :=
  l.whole?.or (l.fraction?.map fraction)

/-- Takes the longest run of digits, at least one. -/
def takeDigits (text : List Char) : Option (List Char × List Char) :=
  let run := text.takeWhile Char.isDigit
  if run.isEmpty then none else some (run, text.dropWhile Char.isDigit)

/-- Takes the digits before the point: a single zero, or a run that does not start with one. -/
def takeWhole : List Char → Option (List Char × List Char)
  | '0' :: rest =>
    match rest with
    | c :: _ => if c.isDigit then none else some (['0'], rest)
    | [] => some (['0'], rest)
  | text => takeDigits text

/-- Takes a point and the digits after it, if a point follows. -/
def takeFraction : List Char → Option (Option (List Char) × List Char)
  | '.' :: rest => (takeDigits rest).map fun (run, rest) ↦ (some run, rest)
  | text => some (none, text)

/-- Takes an exponent, if one follows. -/
def takeExponent : List Char → Option (Option (Bool × List Char) × List Char)
  | c :: rest =>
    if c = 'e' ∨ c = 'E' then
      let (negative, rest) := match rest with
        | '-' :: rest => (true, rest)
        | '+' :: rest => (false, rest)
        | rest => (false, rest)
      (takeDigits rest).map fun (run, rest) ↦ (some (negative, run), rest)
    else some (none, c :: rest)
  | [] => some (none, [])

/-- Takes a number from the front of a text. -/
def takeLiteral (text : List Char) : Option (Literal × List Char) := do
  let (negative, rest) := match text with
    | '-' :: rest => (true, rest)
    | rest => (false, rest)
  let (digits, rest) ← takeWhole rest
  let (places, rest) ← takeFraction rest
  let (exponent, rest) ← takeExponent rest
  return (⟨negative, digits, places, exponent⟩, rest)

/-- The binary fraction nearest to a written number; none for other texts. -/
def fractionOfText? (text : String) : Option Number :=
  match takeLiteral text.toList with
  | some (l, []) => l.nearest?.map fraction
  | _ => none

end Number

end SemanticLayer.Json
