/-!
# Finite binary64 numbers

A finite number of the binary64 format is a signed significand times a power of two. `ofRatio?`
rounds a positive ratio of whole numbers to the nearest such number, a tie going to the even
significand, and answers nothing where the nearest number would be an infinity. Products and
quotients are the exact ones, rounded once.
-/

set_option autoImplicit false

namespace WarehouseSchema.Decimal

/-- A power of two. -/
def twoTo (exponent : Nat) : Nat := Nat.pow 2 exponent

/-- A power of ten. -/
def tenTo (exponent : Nat) : Nat := Nat.pow 10 exponent

/-- The number `± significand · 2 ^ exponent`. The significand of a rounded number has 53 bits, or
fewer at the least exponent. -/
structure Binary64 where
  negative : Bool
  significand : Nat
  exponent : Int
  deriving DecidableEq, Repr

namespace Binary64

/-- The exponent of the numbers nearest to zero. -/
def leastExponent : Int := -1074

/-- The exponent of the numbers farthest from zero. -/
def greatestExponent : Int := 971

/-- Zero, with a sign. -/
def signedZero (negative : Bool) : Binary64 := ⟨negative, 0, leastExponent⟩

/-- Whether the number is zero, of either sign. -/
def isZero (x : Binary64) : Bool := x.significand == 0

/-- The number of the opposite sign. -/
def neg (x : Binary64) : Binary64 := { x with negative := !x.negative }

/-- The magnitude as a ratio of whole numbers. -/
def ratio (x : Binary64) : Nat × Nat :=
  (x.significand * twoTo x.exponent.toNat, twoTo (-x.exponent).toNat)

/-- The quotient of two whole numbers, rounded to the nearest whole number, a tie to the even
one. -/
def nearestEven (num den : Nat) : Nat :=
  let floor := num / den
  let twice := 2 * (num % den)
  if twice < den ∨ (twice = den ∧ floor % 2 = 0) then floor else floor + 1

/-- A ratio divided by a power of two, as a ratio. -/
def scaledDown (num den : Nat) (exponent : Int) : Nat × Nat :=
  (num * twoTo (-exponent).toNat, den * twoTo exponent.toNat)

/-- The binary order of magnitude of a positive ratio: the greatest power of two not above it. -/
def magnitude (num den : Nat) : Int :=
  let estimate : Int := (num.log2 : Int) - den.log2
  let (n, d) := scaledDown num den estimate
  if d ≤ n then estimate else estimate - 1

/-- The binary64 number nearest to a ratio, without sign; nothing where that is an infinity. -/
def ofRatio? (num den : Nat) : Option Binary64 :=
  if num = 0 then some (signedZero false)
  else
    let exponent := max leastExponent (magnitude num den - 52)
    let (n, d) := scaledDown num den exponent
    let significand := nearestEven n d
    let (significand, exponent) :=
      if significand = twoTo 53 then (twoTo 52, exponent + 1) else (significand, exponent)
    if greatestExponent < exponent then none else some ⟨false, significand, exponent⟩

/-- The binary64 number nearest to a whole number. -/
def ofNat? (n : Nat) : Option Binary64 := ofRatio? n 1

/-- The product of two magnitudes, rounded; nothing where it is an infinity. -/
def times? (x y : Binary64) : Option Binary64 :=
  ofRatio? (x.ratio.1 * y.ratio.1) (x.ratio.2 * y.ratio.2)

/-- The quotient of two magnitudes, the second one not zero, rounded; nothing where it is an
infinity. -/
def over? (x y : Binary64) : Option Binary64 :=
  ofRatio? (x.ratio.1 * y.ratio.2) (x.ratio.2 * y.ratio.1)

end Binary64

end WarehouseSchema.Decimal
