import WarehouseSchema.Decimal.Layout
import WarehouseSchema.Json.Basic
import WarehouseSchema.Text.Numeral

/-!
# Numbers of the JSON text format

A numeral is a number as it is spelled: a sign, whole digits without a leading zero, and optionally
a fraction and a power of ten. A numeral without fraction and power is a whole number where it has
the range of a 64-bit integer, signed or unsigned, and is not a negative zero; every other numeral
is a binary64 number.

A binary64 number is read with two roundings, not one: its digits are gathered into a significand of
at most 64 bits, digits that no longer fit giving tens before the point and nothing after it; the
significand is rounded, and then multiplied or divided by the rounded power of ten. A power of ten
beyond `10 ^ 308` is taken in steps. A number too large for the format is not read.
-/

set_option autoImplicit false

namespace WarehouseSchema.JsonText

open Decimal

/-- A number as it is spelled. -/
structure Numeral where
  negative : Bool
  whole : List Char
  fraction : Option (List Char)
  /-- Whether the power of ten is negative, and its digits. -/
  exponent : Option (Bool × List Char)
  deriving DecidableEq, Repr

namespace Numeral

/-- The fraction at the beginning of a text, if one begins there; a point needs a digit after it. -/
def fraction? (text : List Char) : Option (Option (List Char) × List Char) :=
  match text with
  | '.' :: rest =>
    let digits := rest.takeWhile Char.isDigit
    if digits.isEmpty then none else some (some digits, rest.dropWhile Char.isDigit)
  | _ => some (none, text)

/-- The sign before the digits of a power of ten, minus being `true`, and what follows it. -/
def exponentSign (text : List Char) : Bool × List Char :=
  match text with
  | '-' :: rest => (true, rest)
  | '+' :: rest => (false, rest)
  | _ => (false, text)

/-- The power of ten at the beginning of a text, if one begins there; its mark needs a digit. -/
def exponent? (text : List Char) : Option (Option (Bool × List Char) × List Char) :=
  match text with
  | mark :: rest =>
    if mark = 'e' ∨ mark = 'E' then
      let (negative, rest) := exponentSign rest
      let digits := rest.takeWhile Char.isDigit
      if digits.isEmpty then none else some (some (negative, digits), rest.dropWhile Char.isDigit)
    else some (none, text)
  | [] => some (none, text)

/-- Whether digits may stand before the point: at least one, and no zero before another digit. -/
def isWhole (digits : List Char) : Bool :=
  match digits with
  | [] => false
  | ['0'] => true
  | first :: _ => first != '0'

/-- The numeral after its sign, and what follows it. -/
def unsigned? (negative : Bool) (text : List Char) : Option (Numeral × List Char) :=
  let whole := text.takeWhile Char.isDigit
  if isWhole whole then
    (fraction? (text.dropWhile Char.isDigit)).bind fun (fraction, rest) =>
      (exponent? rest).map fun (exponent, rest) => (⟨negative, whole, fraction, exponent⟩, rest)
  else none

/-- The numeral at the beginning of a text, and what follows it. -/
def scan? (text : List Char) : Option (Numeral × List Char) :=
  match text with
  | '-' :: rest => unsigned? true rest
  | _ => unsigned? false text

/-- Appends digits to a significand while it stays below `2 ^ 64`; also answers how many of them
were appended. -/
def gather : Nat → List Char → Nat × Nat
  | significand, [] => (significand, 0)
  | significand, c :: rest =>
    let longer := significand * 10 + (c.toNat - '0'.toNat)
    if longer < twoTo 64 then
      let (result, count) := gather longer rest
      (result, count + 1)
    else (significand, 0)

/-- The power of ten of a non-negative exponent, rounded; of an exponent at most 308 it is
finite. -/
def powerOfTen (exponent : Nat) : Binary64 :=
  (Binary64.ofNat? (tenTo exponent)).getD (.signedZero false)

/-- A magnitude times a power of ten, rounded at every step; nothing where it is too large. -/
def timesPowerOfTen? (x : Binary64) (exponent : Int) : Option Binary64 :=
  if -308 ≤ exponent ∧ exponent < 0 then x.over? (powerOfTen (-exponent).toNat)
  else if 0 ≤ exponent ∧ exponent ≤ 308 then x.times? (powerOfTen exponent.toNat)
  else if x.isZero then some x
  else if 0 ≤ exponent then none
  else (x.over? (powerOfTen 308)).bind fun smaller => timesPowerOfTen? smaller (exponent + 308)
termination_by (-exponent).toNat

/-- A significand times a power of ten as a number with a sign. -/
def float? (negative : Bool) (significand : Nat) (exponent : Int) : Option JsonNumber :=
  (Binary64.ofNat? significand).bind fun x =>
    (timesPowerOfTen? x exponent).map fun y => .float (if negative then y.neg else y)

/-- The value of the power of ten of a numeral. -/
def power (numeral : Numeral) : Int :=
  match numeral.exponent with
  | none => 0
  | some (negative, digits) =>
    let n : Int := Nat.ofDigitChars 10 digits 0
    if negative then -n else n

/-- The number that a numeral stands for. -/
def toNumber? (numeral : Numeral) : Option JsonNumber :=
  let (significand, count) := gather 0 numeral.whole
  let tens : Int := (numeral.whole.length : Int) - count
  if numeral.fraction.isNone && numeral.exponent.isNone && tens == 0 then
    if !numeral.negative then some (.integer significand)
    else if significand = 0 ∨ twoTo 63 < significand then float? true significand 0
    else some (.integer (-significand))
  else
    let (significand, places) := gather significand (numeral.fraction.getD [])
    float? numeral.negative significand (tens - places + numeral.power)

theorem length_of_fraction? {text after : List Char} {fraction : Option (List Char)}
    (h : fraction? text = some (fraction, after)) : after.length ≤ text.length := by
  unfold fraction? at h
  split at h
  · rename_i rest
    have := (List.dropWhile_sublist (p := Char.isDigit) (l := rest)).length_le
    dsimp only at h
    split at h <;> simp at h
    simp [← h.2]; omega
  · simp at h; simp [h.2]

theorem length_of_exponent? {text after : List Char} {exponent : Option (Bool × List Char)}
    (h : exponent? text = some (exponent, after)) : after.length ≤ text.length := by
  have sign : ∀ rest : List Char, (exponentSign rest).2.length ≤ rest.length := by
    intro rest
    unfold exponentSign
    split <;> simp
  unfold exponent? at h
  split at h
  · rename_i mark rest
    split at h
    · have := (List.dropWhile_sublist (p := Char.isDigit) (l := (exponentSign rest).2)).length_le
      have := sign rest
      dsimp only at h
      split at h <;> simp at h
      simp [← h.2]; omega
    · simp at h; simp [h.2]
  · simp at h; simp [h.2]

theorem length_of_unsigned? {negative : Bool} {text after : List Char} {numeral : Numeral}
    (h : unsigned? negative text = some (numeral, after)) : after.length < text.length := by
  unfold unsigned? at h
  dsimp only at h
  split at h
  · rename_i hw
    obtain ⟨⟨fraction, rest⟩, hf, h⟩ := Option.bind_eq_some_iff.1 h
    obtain ⟨⟨exponent, rest'⟩, he, h⟩ := Option.map_eq_some_iff.1 h
    simp at h
    have hf := length_of_fraction? hf
    have he : rest'.length ≤ rest.length := length_of_exponent? he
    have hsplit : (text.takeWhile Char.isDigit ++ text.dropWhile Char.isDigit).length = text.length :=
      congrArg List.length List.takeWhile_append_dropWhile
    simp only [List.length_append] at hsplit
    have hpos : 0 < (text.takeWhile Char.isDigit).length := by
      cases hc : text.takeWhile Char.isDigit with
      | nil => simp [hc, isWhole] at hw
      | cons => simp
    rw [← h.2]; omega
  · simp at h

/-- What follows a numeral is shorter than what began with it. -/
theorem length_of_scan? {text after : List Char} {numeral : Numeral}
    (h : scan? text = some (numeral, after)) : after.length < text.length := by
  unfold scan? at h
  split at h
  · have := length_of_unsigned? h; simp; omega
  · exact length_of_unsigned? h

end Numeral

/-- Numbers from `0.00001` up to below `10 ^ 16` are written positionally. -/
def numberLayout : Layout := ⟨-4, 16⟩

/-- The text of a number. -/
def number : JsonNumber → List Char
  | .integer n => (Text.integerText n).toList
  | .float x => x.text numberLayout

end WarehouseSchema.JsonText
