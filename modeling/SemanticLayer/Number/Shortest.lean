import SemanticLayer.Number.Binary64

/-!
# The shortest decimal of a binary fraction

A binary fraction is written with the fewest digits that read back as the same fraction. The
numbers that read back as `x` form an interval around it: half a unit to each side, half as much
below a power of two, the ends included when the significand is even.

Each power of ten makes a grid. On each grid only the two neighbours of `x` matter: if any point
of the grid lies in the interval, one of them does. So the search goes from coarse grids to fine
ones and stops at the first neighbour in the interval; of two such neighbours it takes the nearer,
and of two equally near ones the even one. Seventeen digits are always enough.
-/

namespace SemanticLayer.Number.Binary64

/-! ### The interval on a common scale -/

/-- A binary fraction against the grid of a power of ten: everything is a whole multiple of one
small unit. -/
structure GridView where
  /-- The value itself. -/
  value : Nat
  /-- The lower end of the interval that reads back as the value. -/
  low : Nat
  /-- The upper end of that interval. -/
  high : Nat
  /-- Whether the ends belong to the interval. -/
  closed : Bool
  /-- The distance between neighbouring points of the grid. -/
  step : Nat

/-- The view of `x` against the grid of `10 ^ power`. -/
def gridView (x : Binary64) (power : Int) : GridView :=
  let quarter : Int := x.exponent - 2
  let unit := Nat.pow 2 quarter.toNat * Nat.pow 10 (-power).toNat
  let below := if x.significand = leadingBit ∧ x.exponent ≠ -1074 then 1 else 2
  { value := 4 * x.significand * unit
    low := (4 * x.significand - below) * unit
    high := (4 * x.significand + 2) * unit
    closed := x.significand % 2 == 0
    step := Nat.pow 10 power.toNat * Nat.pow 2 (-quarter).toNat }

/-- Whether a point reads back as the value. -/
def GridView.accepts (view : GridView) (point : Nat) : Bool :=
  if view.closed then view.low ≤ point && point ≤ view.high
  else view.low < point && point < view.high

/-- The multiple of the step that represents the value on this grid, if one does. -/
def GridView.nearest? (view : GridView) : Option Nat :=
  let below := view.value / view.step
  let above := below + 1
  match view.accepts (below * view.step), view.accepts (above * view.step) with
  | true, false => some below
  | false, true => some above
  | false, false => none
  | true, true =>
    let down := view.value - below * view.step
    let up := above * view.step - view.value
    if down < up then some below
    else if up < down then some above
    else some (if below % 2 = 0 then below else above)

/-! ### The digits -/

/-- The first hit on the grids of `10 ^ power` and the finer ones, as a multiple and its power. -/
def searchGrids (x : Binary64) : Nat → Int → Option (Nat × Int)
  | 0, _ => none
  | fuel + 1, power =>
    match (x.gridView power).nearest? with
    | some multiple => some (multiple, power)
    | none => searchGrids x fuel (power - 1)

/-- A power of ten above that of the leading digit of `x`. -/
def topPower (x : Binary64) : Int :=
  let num := x.significand * Nat.pow 2 x.exponent.toNat
  let den := Nat.pow 2 (-x.exponent).toNat
  ((Nat.toDigits 10 num).length : Int) - (Nat.toDigits 10 den).length + 1

/-- The shortest digits of a number other than zero, without trailing zeros, and the power of ten
of the first of them. -/
def shortestDigits (x : Binary64) : List Char × Int :=
  match x.searchGrids 24 x.topPower with
  | some (multiple, power) =>
    let digits := Nat.toDigits 10 multiple
    ((digits.reverse.dropWhile (· == '0')).reverse, power + digits.length - 1)
  | none => (['0'], 0)

/-! ### The written form -/

/-- Digits with a point after the first `whole` of them, filled up with zeros so that at least one
digit stands on each side. -/
def withPoint (digits : List Char) (whole : Nat) : List Char :=
  let padded := digits ++ List.replicate (whole + 1 - digits.length) '0'
  padded.take whole ++ '.' :: padded.drop whole

/-- The written form of the digits of a number whose first digit stands for `10 ^ power`: in full
between `10 ^ -5` and `10 ^ 16`, otherwise with a signed power of ten. -/
def layout (digits : List Char) (power : Int) : List Char :=
  if -5 ≤ power ∧ power < 0 then
    '0' :: '.' :: (List.replicate (-power - 1).toNat '0' ++ digits)
  else if 0 ≤ power ∧ power ≤ 15 then withPoint digits (power.toNat + 1)
  else
    let significand := match digits with
      | [] => []
      | [digit] => [digit]
      | digit :: rest => digit :: '.' :: rest
    let sign := if power < 0 then '-' else '+'
    significand ++ 'e' :: sign :: Nat.toDigits 10 power.natAbs

/-- The number in its shortest decimal form. -/
def render (x : Binary64) : String :=
  let size := if x.isZero then ['0', '.', '0']
    else
      let (digits, power) := x.shortestDigits
      layout digits power
  String.ofList (if x.negative then '-' :: size else size)

end SemanticLayer.Number.Binary64
