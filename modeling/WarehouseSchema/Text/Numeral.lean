/-!
# Whole numbers in decimal

A whole number is written with as few digits as it needs, after a minus sign if it is negative. It
is read from ASCII digits with an optional sign of either kind; a number outside the 64-bit signed
range is not read.
-/

set_option autoImplicit false

namespace WarehouseSchema.Text

/-- The decimal text of a whole number. -/
def integerText (n : Int) : String :=
  if n < 0 then "-" ++ n.natAbs.repr else n.natAbs.repr

/-- The number that a non-empty run of ASCII digits stands for. -/
def readDigits? (digits : List Char) : Option Nat :=
  if digits.isEmpty || !digits.all Char.isDigit then none else some (Nat.ofDigitChars 10 digits 0)

/-- A 64-bit signed integer of the given value, if it has the range for it. -/
def int64? (n : Int) : Option Int64 :=
  if Int64.minValue.toInt ≤ n ∧ n ≤ Int64.maxValue.toInt then some (Int64.ofInt n) else none

/-- Reads a 64-bit signed integer from the whole of a text: at most one sign, then digits. -/
def readInt64? (text : List Char) : Option Int64 :=
  match text with
  | '-' :: digits => (readDigits? digits).bind fun n => int64? (-n)
  | '+' :: digits => (readDigits? digits).bind fun n => int64? n
  | digits => (readDigits? digits).bind fun n => int64? n

theorem int64?_toInt (n : Int64) : int64? n.toInt = some n := by
  have h : Int64.minValue.toInt ≤ n.toInt ∧ n.toInt ≤ Int64.maxValue.toInt :=
    ⟨Int64.le_iff_toInt_le.1 (Int64.minValue_le n), Int64.le_iff_toInt_le.1 (Int64.le_maxValue n)⟩
  rw [int64?, if_pos h, Int64.ofInt_toInt]

end WarehouseSchema.Text
