import WarehouseSchema.Json.Numeral
import WarehouseSchema.Proofs.Text.Numeral

/-!
# Numbers of the JSON text format as they are written

A whole number is written as a numeral without fraction and power, and the numeral ends where the
format lets something else begin. Where the number fits 64 bits, signed or unsigned, the numeral has
its value.

The text of a number of either kind is not empty and made of digits, signs, a point and the mark of
a power (`Numeric.number`).
-/

set_option autoImplicit false

namespace WarehouseSchema.JsonText

/-- What may stand after a value: nothing, a comma, or the end of an array or an object. -/
inductive Delimited : List Char → Prop where
  | nil : Delimited []
  | comma (rest : List Char) : Delimited (',' :: rest)
  | closeArray (rest : List Char) : Delimited (']' :: rest)
  | closeObject (rest : List Char) : Delimited ('\x7d' :: rest)

namespace Numeral

/-- The numeral that a whole number is written as. -/
def ofInteger (n : Int) : Numeral := ⟨decide (n < 0), n.natAbs.repr.toList, none, none⟩

/-! ## Where a numeral ends -/

/-- The digits of a number end where something else begins. -/
theorem takeWhile_isDigit_append {digits rest : List Char} (all : digits.all Char.isDigit = true)
    (ends : Delimited rest) : (digits ++ rest).takeWhile Char.isDigit = digits := by
  rw [List.takeWhile_append_of_pos (List.all_eq_true.1 all)]
  cases ends <;> exact List.append_nil digits

/-- What follows the digits of a number is left over. -/
theorem dropWhile_isDigit_append {digits rest : List Char} (all : digits.all Char.isDigit = true)
    (ends : Delimited rest) : (digits ++ rest).dropWhile Char.isDigit = rest := by
  rw [List.dropWhile_append_of_pos (List.all_eq_true.1 all)]
  cases ends <;> rfl

/-- Neither a fraction nor a power of ten begins where a value has ended. -/
theorem fraction?_of_delimited {rest : List Char} (ends : Delimited rest) :
    fraction? rest = some (none, rest) := by
  cases ends <;> rfl

/-- A number that ends has no exponent. -/
theorem exponent?_of_delimited {rest : List Char} (ends : Delimited rest) :
    exponent? rest = some (none, rest) := by
  cases ends <;> rfl

/-- A natural number is written without a leading zero. -/
theorem isWhole_repr (n : Nat) : isWhole n.repr.toList = true := by
  rcases Nat.eq_zero_or_pos n with rfl | positive
  · decide
  · obtain ⟨first, rest, digits, nonzero⟩ := Text.exists_toDigits_of_pos n positive
    rw [Nat.toList_repr, digits]
    unfold isWhole
    split
    · rename_i none
      cases none
    · rfl
    · rename_i same
      cases same
      exact bne_iff_ne.2 nonzero

/-- A natural number is read up to where it ends, without a fraction and without an exponent. -/
theorem unsigned?_repr (negative : Bool) (n : Nat) {rest : List Char} (ends : Delimited rest) :
    unsigned? negative (n.repr.toList ++ rest) =
      some (⟨negative, n.repr.toList, none, none⟩, rest) := by
  rw [unsigned?, takeWhile_isDigit_append (Text.all_isDigit_repr n) ends,
    dropWhile_isDigit_append (Text.all_isDigit_repr n) ends, isWhole_repr,
    fraction?_of_delimited ends]
  simp only [↓reduceIte, Option.bind_some, exponent?_of_delimited ends, Option.map_some]

/-- A whole number is read as the numeral that it is written as. -/
theorem scan?_integerText (n : Int) {rest : List Char} (ends : Delimited rest) :
    scan? ((Text.integerText n).toList ++ rest) = some (ofInteger n, rest) := by
  by_cases negative : n < 0
  · rw [Text.toList_integerText_of_neg negative, List.cons_append, scan?,
      unsigned?_repr true n.natAbs ends, ofInteger, decide_eq_true negative]
  · obtain ⟨first, digits, written, digit⟩ := Text.exists_toList_repr n.natAbs
    have unsigned := unsigned?_repr false n.natAbs ends
    rw [Text.toList_integerText_of_nonneg (Int.not_lt.1 negative), ofInteger,
      decide_eq_false negative]
    rw [written, List.cons_append] at unsigned ⊢
    unfold scan?
    split
    · rename_i same
      cases same
      cases digit
    · exact unsigned

/-! ## The value of a numeral -/

/-- Further digits make no number smaller. -/
theorem le_ofDigitChars (n : Nat) (digits : List Char) : n ≤ Nat.ofDigitChars 10 digits n := by
  rw [Nat.ofDigitChars_eq_ofDigitChars_zero]
  have factor : 1 * n ≤ 10 ^ digits.length * n :=
    Nat.mul_le_mul_right n (Nat.pow_pos (by decide))
  omega

/-- Digits that stay within 64 bits are all gathered. -/
theorem gather_eq {significand : Nat} {digits : List Char}
    (fits : Nat.ofDigitChars 10 digits significand < Decimal.twoTo 64) :
    gather significand digits = (Nat.ofDigitChars 10 digits significand, digits.length) := by
  induction digits generalizing significand with
  | nil => rfl
  | cons c rest ih =>
    rw [Nat.ofDigitChars_cons, Nat.mul_comm 10 significand] at fits ⊢
    have within := Nat.lt_of_le_of_lt (le_ofDigitChars _ rest) fits
    rw [gather, if_pos within, ih fits]
    rfl

/-- All digits of a number are gathered where it has the range for them. -/
theorem gather_repr {n : Nat} (fits : n < Decimal.twoTo 64) :
    gather 0 n.repr.toList = (n, n.repr.toList.length) := by
  have value : Nat.ofDigitChars 10 n.repr.toList 0 = n := by
    rw [Nat.toList_repr, Nat.ofDigitChars_ten_toDigits]
  rw [gather_eq (by rw [value]; exact fits), value]

/-- A whole number that fits 64 bits, signed or unsigned, is the value of its numeral. -/
theorem toNumber?_ofInteger {n : Int} (low : -(Decimal.twoTo 63) ≤ n)
    (high : n < Decimal.twoTo 64) : toNumber? (ofInteger n) = some (.integer n) := by
  have word : Decimal.twoTo 64 = 2 * Decimal.twoTo 63 := rfl
  have fits : n.natAbs < Decimal.twoTo 64 := by omega
  have gathered := gather_repr fits
  simp only [toNumber?, ofInteger, gathered, Option.isNone_none, Int.sub_self, beq_self_eq_true,
    Bool.and_self, ↓reduceIte]
  by_cases negative : n < 0
  · have inRange : ¬(n.natAbs = 0 ∨ Decimal.twoTo 63 < n.natAbs) := by omega
    have value : -(n.natAbs : Int) = n := by omega
    rw [decide_eq_true negative, if_neg (by decide), if_neg inRange, value]
  · have value : (n.natAbs : Int) = n := by omega
    rw [decide_eq_false negative, if_pos (by decide), value]

end Numeral

open Decimal

/-! ## The characters of a number -/

/-- Whether a character may stand in the text of a number. -/
def isNumeric (c : Char) : Bool :=
  c.isDigit || c == '-' || c == '+' || c == '.' || c == 'e'

/-- A text of a number is made of such characters. -/
def Numeric (text : List Char) : Prop := ∀ c ∈ text, isNumeric c = true

namespace Numeric

variable {text more : List Char}

theorem nil : Numeric [] := List.forall_mem_nil _

theorem cons {c : Char} (numeric : isNumeric c = true) (rest : Numeric text) :
    Numeric (c :: text) := List.forall_mem_cons.2 ⟨numeric, rest⟩

/-- A text after another one has the characters of both. -/
theorem append (first : Numeric text) (second : Numeric more) : Numeric (text ++ more) :=
  List.forall_mem_append.2 ⟨first, second⟩

/-- A part of a text has no other characters. -/
theorem mono (numeric : Numeric text) (among : more ⊆ text) : Numeric more :=
  fun c mem => numeric c (among mem)

theorem zeros (count : Nat) : Numeric (List.replicate count '0') := by
  intro c mem
  rw [List.eq_of_mem_replicate mem]
  rfl

/-- The digits of a natural number are characters of a number. -/
theorem toDigits (n : Nat) : Numeric (Nat.toDigits 10 n) := by
  intro c mem
  rw [isNumeric, Nat.isDigit_of_mem_toDigits (by decide) (by decide) mem]
  rfl

/-- So are the digits that a decimal is told by. -/
theorem significantDigits (x : Scientific) : Numeric (Layout.significantDigits x) := by
  refine (toDigits x.coefficient).mono fun c mem => ?_
  rw [Layout.significantDigits, List.mem_reverse] at mem
  exact List.mem_reverse.1 ((List.dropWhile_sublist _).subset mem)

/-- A decimal is written out with digits, zeros and a point. -/
theorem positional {digits : List Char} (numeric : Numeric digits) (position : Int) :
    Numeric (Layout.positional digits position) := by
  unfold Layout.positional
  split
  · exact cons rfl (cons rfl (zeros _)) |>.append numeric
  · refine append (append (numeric.mono (List.take_subset _ _)) (zeros _)) (cons rfl ?_)
    split
    · exact cons rfl nil
    · exact numeric.mono (List.drop_subset _ _)

/-- A decimal with an exponent has digits, a point, the letter and a sign. -/
theorem scientific {digits : List Char} (numeric : Numeric digits) (position : Int) :
    Numeric (Layout.scientific digits position) := by
  unfold Layout.scientific
  refine append (append (numeric.mono (List.take_subset _ _)) ?_) (cons rfl (cons ?_ (toDigits _)))
  · split
    · exact nil
    · exact cons rfl (numeric.mono (List.drop_subset _ _))
  · split <;> rfl

/-- A whole number has digits and perhaps a minus sign. -/
theorem integerText (n : Int) : Numeric (Text.integerText n).toList := by
  have digits : Numeric n.natAbs.repr.toList := by
    rw [Nat.toList_repr]
    exact toDigits _
  rcases Int.lt_or_le n 0 with negative | nonneg
  · rw [Text.toList_integerText_of_neg negative]
    exact cons rfl digits
  · rw [Text.toList_integerText_of_nonneg nonneg]
    exact digits

/-- Either layout has only characters of a number. -/
theorem write (layout : Layout) (x : Scientific) : Numeric (layout.write x) := by
  unfold Layout.write
  dsimp only
  split
  · exact (significantDigits x).positional _
  · exact (significantDigits x).scientific _

/-- Every number is written with characters of a number alone, and so holds neither a quote nor a
border. -/
theorem number (n : JsonNumber) : Numeric (JsonText.number n) := by
  cases n with
  | integer n => exact integerText n
  | float x =>
    have magnitude : Numeric (if x.isZero then ['0', '.', '0']
        else numberLayout.write (shortest x)) := by
      split
      · exact cons rfl (cons rfl (cons rfl nil))
      · exact write _ _
    show Numeric (x.text numberLayout)
    unfold Binary64.text
    dsimp only
    split
    · exact cons rfl magnitude
    · exact magnitude

end Numeric

/-- A whole number is written with at least one digit. -/
theorem integerText_ne_nil (n : Int) : (Text.integerText n).toList ≠ [] := by
  rcases Int.lt_or_le n 0 with negative | nonneg
  · rw [Text.toList_integerText_of_neg negative]
    exact List.cons_ne_nil _ _
  · rw [Text.toList_integerText_of_nonneg nonneg]
    exact Text.toList_repr_ne_nil _

/-- A decimal is written with at least one character, in either layout. -/
theorem write_ne_nil (layout : Layout) (x : Scientific) : layout.write x ≠ [] := by
  unfold Layout.write
  dsimp only
  split
  · unfold Layout.positional
    split <;> simp
  · unfold Layout.scientific
    simp

/-- No number is written as the empty text. -/
theorem number_ne_nil (n : JsonNumber) : number n ≠ [] := by
  cases n with
  | integer n => exact integerText_ne_nil n
  | float x =>
    show x.text numberLayout ≠ []
    unfold Binary64.text
    dsimp only
    split
    · exact List.cons_ne_nil _ _
    · split
      · exact List.cons_ne_nil _ _
      · exact write_ne_nil _ _

end WarehouseSchema.JsonText
