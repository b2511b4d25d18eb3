import SemanticLayer.Number.Binary64

/-!
# Scaling by powers of ten in rounded steps

Products and quotients of binary fractions, each the fraction nearest to the exact result, and the
scaling of a fraction by a power of ten that is made of them. The power is itself rounded before it
is used, so the result of scaling may miss the fraction nearest to the exact value by a unit in the
last place; `ofDecimal?` is the reading that never does. The two agree wherever the significand and
the power are both exact.
-/

namespace SemanticLayer.Number.Binary64

/-! ### Products and quotients -/

/-- The size of a binary fraction as numerator and denominator. -/
def toQuotient (x : Binary64) : Nat × Nat :=
  (x.significand * Nat.pow 2 x.exponent.toNat, Nat.pow 2 (-x.exponent).toNat)

/-- The rounded product; none if it exceeds every finite fraction. -/
def mul? (x y : Binary64) : Option Binary64 :=
  let (a, b) := x.toQuotient
  let (c, d) := y.toQuotient
  ofQuotient? (x.negative != y.negative) (a * c) (b * d)

/-- The rounded quotient by a fraction other than zero; none if it exceeds every finite
fraction. -/
def div? (x y : Binary64) : Option Binary64 :=
  let (a, b) := x.toQuotient
  let (c, d) := y.toQuotient
  ofQuotient? (x.negative != y.negative) (a * d) (b * c)

/-! ### Powers of ten -/

/-- The largest power of ten that is finite as a binary fraction. -/
def maxPower : Nat :=
  308

/-- The binary fraction nearest to a power of ten, if there is a finite one. -/
def powerOfTen? (power : Nat) : Option Binary64 :=
  ofQuotient? false (Nat.pow 10 power) 1

/-- Scales by `10 ^ exponent`: one product, or one quotient after as many quotients by the largest
power as bring the exponent into range. None if the result exceeds every finite fraction. -/
def scale? (x : Binary64) (exponent : Int) : Option Binary64 :=
  if exponent < -maxPower then
    if x.isZero then some x
    else do scale? (← x.div? (← powerOfTen? maxPower)) (exponent + maxPower)
  else if exponent < 0 then do x.div? (← powerOfTen? (-exponent).toNat)
  else if exponent ≤ maxPower then do x.mul? (← powerOfTen? exponent.toNat)
  else if x.isZero then some x
  else none
termination_by (-exponent).toNat
decreasing_by simp only [maxPower] at *; omega

end SemanticLayer.Number.Binary64
