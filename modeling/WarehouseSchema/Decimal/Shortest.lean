import WarehouseSchema.Decimal.Binary64

/-!
# The shortest decimal that reads back

Every finite binary64 number owns the interval of real numbers that round to it; the ends belong to
it exactly when its significand is even. Its shortest decimal is the one with the fewest digits in
that interval, and of two such the one nearer to the number, a tie going to the even digit.

On a grid of decimals of a given spacing, some point lies in the interval only if one of the two
neighbours of the number on that grid does. So `shortest` tries the grids of one digit, two digits,
and so on; seventeen digits always suffice.
-/

set_option autoImplicit false

namespace WarehouseSchema.Decimal

/-- The decimal `coefficient · 10 ^ exponent`. -/
structure Scientific where
  coefficient : Nat
  exponent : Int
  deriving DecidableEq, Repr

/-- The interval of a positive binary64 number, over a common denominator. -/
structure RoundingInterval where
  low : Nat
  value : Nat
  high : Nat
  denominator : Nat
  closed : Bool

namespace RoundingInterval

/-- The interval of the numbers that round to `x`. Below a power of two the neighbour is half as far
away as above it. -/
def of (x : Binary64) : RoundingInterval :=
  let scale := twoTo x.exponent.toNat
  let below := if x.significand = twoTo 52 ∧ Binary64.leastExponent < x.exponent then 1 else 2
  { low := (4 * x.significand - below) * scale
    value := 4 * x.significand * scale
    high := (4 * x.significand + 2) * scale
    denominator := 4 * twoTo (-x.exponent).toNat
    closed := x.significand % 2 == 0 }

/-- Whether the decimal `coefficient · 10 ^ exponent` lies in the interval. -/
def contains (i : RoundingInterval) (coefficient : Nat) (exponent : Int) : Bool :=
  let point := coefficient * tenTo exponent.toNat * i.denominator
  let unit := tenTo (-exponent).toNat
  (i.low * unit < point && point < i.high * unit) ||
    (i.closed && (i.low * unit == point || point == i.high * unit))

/-- The number of digits before the decimal point, counted negatively where zeros follow the point:
the value is below this power of ten and not below the one before it. -/
def pointPosition (i : RoundingInterval) : Int :=
  ((Nat.toDigits 10 (i.value * tenTo 340 / i.denominator)).length : Int) - 340

/-- The point of the grid of spacing `10 ^ exponent` in the interval that is nearest to the
value. -/
def nearest? (i : RoundingInterval) (exponent : Int) : Option Nat :=
  let spacing := tenTo exponent.toNat * i.denominator
  let scaled := i.value * tenTo (-exponent).toNat
  let floor := scaled / spacing
  match i.contains floor exponent, i.contains (floor + 1) exponent with
  | true, true =>
    let middle := (2 * floor + 1) * spacing
    if 2 * scaled < middle ∨ (2 * scaled = middle ∧ floor % 2 = 0) then some floor
    else some (floor + 1)
  | true, false => some floor
  | false, true => some (floor + 1)
  | false, false => none

end RoundingInterval

/-- The shortest decimal that rounds to the magnitude of a number, and of those the nearest. -/
def shortest (x : Binary64) : Scientific :=
  let interval := RoundingInterval.of x
  let position := interval.pointPosition
  let hit := (List.range 17).findSome? fun (digits : Nat) =>
    let exponent : Int := position - digits - 1
    (interval.nearest? exponent).map fun coefficient => Scientific.mk coefficient exponent
  hit.getD ⟨x.significand, x.exponent⟩

end WarehouseSchema.Decimal
