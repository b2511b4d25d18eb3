/-!
# Rounding a quotient

Rounding of a quotient of natural numbers to the nearest natural number, a half going to the even
neighbour. Reading a decimal as a binary fraction is this operation on a suitable scale.
-/

namespace SemanticLayer.Number

/-- The natural number nearest to `num / den`; of two equally near ones, the even one. -/
def roundHalfEven (num den : Nat) : Nat :=
  let quotient := num / den
  let rest := num % den
  if 2 * rest < den then quotient
  else if den < 2 * rest then quotient + 1
  else quotient + quotient % 2

end SemanticLayer.Number
