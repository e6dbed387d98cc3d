import WarehouseSchema.Decimal.Shortest

/-!
# Decimals as text

A layout says where a number is written positionally and where with a power of ten. A positional
number always has a digit on either side of its point; a power of ten always has a sign, and as few
digits as it needs.
-/

set_option autoImplicit false

namespace WarehouseSchema.Decimal

/-- The positions of the decimal point for which a number is written positionally: the point stands
after that many digits, or before that many zeros where the position is negative. -/
structure Layout where
  leastPosition : Int
  greatestPosition : Int
  deriving DecidableEq, Repr

namespace Layout

/-- Significant digits written positionally around a point. -/
def positional (digits : List Char) (position : Int) : List Char :=
  if position ≤ 0 then '0' :: '.' :: List.replicate (-position).toNat '0' ++ digits
  else
    let whole := digits.take position.toNat
    let fraction := digits.drop position.toNat
    whole ++ List.replicate (position.toNat - whole.length) '0' ++
      '.' :: (if fraction.isEmpty then ['0'] else fraction)

/-- Significant digits with the point after the first of them, and a power of ten. -/
def scientific (digits : List Char) (position : Int) : List Char :=
  let power := position - 1
  let fraction := digits.drop 1
  digits.take 1 ++ (if fraction.isEmpty then [] else '.' :: fraction) ++
    'e' :: (if power < 0 then '-' else '+') :: Nat.toDigits 10 power.natAbs

/-- The significant digits of a decimal: those of its coefficient without trailing zeros. -/
def significantDigits (x : Scientific) : List Char :=
  ((Nat.toDigits 10 x.coefficient).reverse.dropWhile (· == '0')).reverse

/-- A positive decimal in this layout. -/
def write (layout : Layout) (x : Scientific) : List Char :=
  let digits := significantDigits x
  let position := ((Nat.toDigits 10 x.coefficient).length : Int) + x.exponent
  if layout.leastPosition ≤ position ∧ position ≤ layout.greatestPosition then
    positional digits position
  else scientific digits position

end Layout

/-- A binary64 number by its shortest decimal. -/
def Binary64.text (layout : Layout) (x : Binary64) : List Char :=
  let magnitude := if x.isZero then ['0', '.', '0'] else layout.write (shortest x)
  if x.negative then '-' :: magnitude else magnitude

end WarehouseSchema.Decimal
