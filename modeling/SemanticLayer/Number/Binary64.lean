import SemanticLayer.Number.Rounding

/-!
# Finite binary fractions of 64 bits

A number with a fraction or an exponent is held as the nearest finite binary fraction of 64 bits:
a sign, a significand below `2 ^ 53` and an exponent of two. The fields are kept in the one form in
which each value has a single representation, apart from the two signed zeros, so that equality of
the structures is equality of the values.

All arithmetic is on natural numbers. Nothing here uses machine floating point, so every statement
about these numbers can be proved.
-/

namespace SemanticLayer.Number

/-! ### The type -/

/-- The least significand that fills its 53 bits, `2 ^ 52`. -/
abbrev leadingBit : Nat := 4503599627370496

/-- The least number with more bits than a significand, `2 ^ 53`. -/
abbrev significandBound : Nat := 9007199254740992

/-- The canonical pairs of significand and exponent: the significand fills its 53 bits unless the
exponent is the smallest one. -/
def IsCanonical (significand : Nat) (exponent : Int) : Prop :=
  significand < significandBound ∧ -1074 ≤ exponent ∧ exponent ≤ 971 ∧
    (leadingBit ≤ significand ∨ exponent = -1074)

instance (significand : Nat) (exponent : Int) : Decidable (IsCanonical significand exponent) := by
  unfold IsCanonical
  infer_instance

/-- A finite binary fraction: `significand * 2 ^ exponent`, with a sign. -/
structure Binary64 where
  /-- Whether the number carries a minus sign; zero may. -/
  negative : Bool
  /-- The whole number that the power of two scales. -/
  significand : Nat
  /-- The power of two. -/
  exponent : Int
  /-- The fields are in canonical form. -/
  canonical : IsCanonical significand exponent
  deriving DecidableEq

namespace Binary64

/-- The number with the given fields, if they are canonical. -/
def ofFields? (negative : Bool) (significand : Nat) (exponent : Int) : Option Binary64 :=
  if h : IsCanonical significand exponent then some ⟨negative, significand, exponent, h⟩ else none

/-- Zero, with either sign. -/
def zero (negative : Bool) : Binary64 :=
  ⟨negative, 0, -1074, by decide⟩

/-- Whether the number is one of the two zeros. -/
def isZero (x : Binary64) : Bool :=
  x.significand == 0

/-- The whole number nearest to `x` on the side of zero. -/
def truncate (x : Binary64) : Int :=
  let size := if 0 ≤ x.exponent then x.significand * Nat.pow 2 x.exponent.toNat
    else x.significand / Nat.pow 2 (-x.exponent).toNat
  if x.negative then -(size : Int) else size

/-! ### The nearest binary fraction -/

/-- The quotient `num / den` in units of `2 ^ exponent`, as numerator and denominator. -/
def inUnits (num den : Nat) (exponent : Int) : Nat × Nat :=
  if 0 ≤ exponent then (num, den * Nat.pow 2 exponent.toNat)
  else (num * Nat.pow 2 (-exponent).toNat, den)

/-- The exponent whose unit leaves a quotient of 53 bits, or the smallest exponent. The logarithms
fix it up to one; the comparison settles which. -/
def unitExponent (num den : Nat) : Int :=
  let guess : Int := max ((num.log2 : Int) - den.log2 - 53) (-1074)
  let (num, den) := inUnits num den guess
  if num / den < significandBound then guess else guess + 1

/-- The binary fraction nearest to `num / den`, ties going to the even significand; none if it
would exceed every finite one. -/
def ofQuotient? (negative : Bool) (num den : Nat) : Option Binary64 :=
  if num = 0 then some (zero negative)
  else
    let exponent := unitExponent num den
    let (num, den) := inUnits num den exponent
    let significand := roundHalfEven num den
    if significand = significandBound then ofFields? negative leadingBit (exponent + 1)
    else ofFields? negative significand exponent

/-- The binary fraction nearest to `digits * 10 ^ exponent`. Powers of ten far outside the range
are not computed: they round to zero or exceed every finite number. -/
def ofDecimal? (negative : Bool) (digits : Nat) (exponent : Int) : Option Binary64 :=
  let leading : Int := exponent + (Nat.toDigits 10 digits).length
  if digits = 0 then some (zero negative)
  else if 320 < leading then none
  else if leading < -330 then some (zero negative)
  else if 0 ≤ exponent then ofQuotient? negative (digits * Nat.pow 10 exponent.toNat) 1
  else ofQuotient? negative digits (Nat.pow 10 (-exponent).toNat)

end Binary64

end SemanticLayer.Number
