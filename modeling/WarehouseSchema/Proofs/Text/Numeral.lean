import WarehouseSchema.Text.Numeral

/-!
# Whole numbers are read as they are written

The digits that a number is written with are the digits that it is read from, and no number but zero
is written with a leading zero. A 64-bit number is read from every text that `Denotes` it, leading
zeros or not.
-/

set_option autoImplicit false

namespace WarehouseSchema.Text

/-- A character of a class is none that is outside the class. -/
theorem ne_of_class {p : Char → Bool} {c d : Char} (inside : p c = true) (outside : p d = false) :
    c ≠ d := by
  rintro rfl
  rw [inside] at outside
  cases outside

/-! ## Digits of natural numbers -/

/-- A natural number is written with digits alone. -/
theorem isDigit_of_mem_repr {n : Nat} {c : Char} (mem : c ∈ n.repr.toList) : c.isDigit = true := by
  rw [Nat.toList_repr] at mem
  exact Nat.isDigit_of_mem_toDigits (by decide) (by decide) mem

theorem all_isDigit_repr (n : Nat) : n.repr.toList.all Char.isDigit = true :=
  List.all_eq_true.2 fun _ mem => isDigit_of_mem_repr mem

/-- It is written with at least one. -/
theorem toList_repr_ne_nil (n : Nat) : n.repr.toList ≠ [] := by
  rw [Nat.toList_repr]
  exact Nat.toDigits_ne_nil

/-- So its text begins with a digit. -/
theorem exists_toList_repr (n : Nat) :
    ∃ first rest, n.repr.toList = first :: rest ∧ first.isDigit = true := by
  obtain ⟨first, rest, digits⟩ := List.exists_cons_of_ne_nil (toList_repr_ne_nil n)
  refine ⟨first, rest, digits, isDigit_of_mem_repr (n := n) ?_⟩
  rw [digits]
  exact List.mem_cons_self

/-- The digit of a number below ten is zero only for zero. -/
theorem digitChar_ne_zero {n : Nat} (positive : 0 < n) (small : n < 10) : n.digitChar ≠ '0' := by
  have every : ∀ n < 10, 0 < n → n.digitChar ≠ '0' := by decide
  exact every n small positive

/-- A positive number is written without a leading zero. The induction takes the last digit away. -/
theorem exists_toDigits_of_pos (n : Nat) (positive : 0 < n) :
    ∃ first rest, Nat.toDigits 10 n = first :: rest ∧ first ≠ '0' := by
  by_cases small : n < 10
  · exact ⟨n.digitChar, [], Nat.toDigits_of_lt_base small, digitChar_ne_zero positive small⟩
  · have large : 10 ≤ n := Nat.le_of_not_lt small
    obtain ⟨first, rest, digits, nonzero⟩ :=
      exists_toDigits_of_pos (n / 10) (Nat.div_pos large (by decide))
    rw [Nat.toDigits_of_base_le (by decide) large, digits]
    exact ⟨first, rest ++ [(n % 10).digitChar], rfl, nonzero⟩
termination_by n
decreasing_by omega

/-- The digits of a number stand for it. -/
theorem ofDigitChars_repr (n : Nat) : Nat.ofDigitChars 10 n.repr.toList 0 = n := by
  rw [Nat.toList_repr, Nat.ofDigitChars_ten_toDigits]

/-! ## Whole numbers -/

/-- A negative number is a minus sign and the digits of its distance from zero. -/
theorem toList_integerText_of_neg {n : Int} (negative : n < 0) :
    (integerText n).toList = '-' :: n.natAbs.repr.toList := by
  rw [integerText, if_pos negative, String.toList_append]
  rfl

/-- Any other number has no sign. -/
theorem toList_integerText_of_nonneg {n : Int} (nonneg : 0 ≤ n) :
    (integerText n).toList = n.natAbs.repr.toList := by
  rw [integerText, if_neg (Int.not_lt.2 nonneg)]

/-! ## Which texts are read -/

/-- Digits are read where there are some and nothing else, as the number that they stand for. -/
theorem readDigits?_eq_some {digits : List Char} {n : Nat} :
    readDigits? digits = some n ↔
      digits ≠ [] ∧ (∀ d ∈ digits, d.isDigit = true) ∧ Nat.ofDigitChars 10 digits 0 = n := by
  rw [readDigits?]
  split
  · rename_i unread
    rw [Bool.or_eq_true, List.isEmpty_iff, Bool.not_eq_true', List.all_eq_false] at unread
    refine ⟨fun none => (nomatch none), ?_⟩
    rintro ⟨nonempty, all, -⟩
    obtain empty | ⟨d, mem, noDigit⟩ := unread
    · exact absurd empty nonempty
    · exact absurd (all d mem) noDigit
  · rename_i read
    rw [Bool.or_eq_true, not_or, List.isEmpty_iff, Bool.not_eq_true', Bool.not_eq_false,
      List.all_eq_true] at read
    rw [Option.some_inj]
    exact ⟨fun value => ⟨read.1, read.2, value⟩, fun parts => parts.2.2⟩

/-- A number is a 64-bit one exactly where it is the value of one. -/
theorem int64?_eq_some {value : Int} {n : Int64} : int64? value = some n ↔ n.toInt = value := by
  constructor
  · intro fits
    rw [int64?] at fits
    split at fits
    · rename_i range
      cases fits
      exact Int64.toInt_ofInt_of_le range.1 (Int.lt_of_le_of_lt range.2 (by decide))
    · cases fits
  · rintro rfl
    exact int64?_toInt n

/-- A text is a number in ASCII digits, with a minus sign or none. -/
def Denotes (text : List Char) (n : Int64) : Prop :=
  ∃ digits, (digits ≠ [] ∧ ∀ d ∈ digits, d.isDigit = true) ∧
    (text = digits ∧ n.toInt = Nat.ofDigitChars 10 digits 0 ∨
      text = '-' :: digits ∧ n.toInt = -Nat.ofDigitChars 10 digits 0)

theorem bind_readDigits?_eq_some {digits : List Char} {value : Nat → Int} {n : Int64} :
    ((readDigits? digits).bind fun m => int64? (value m)) = some n ↔
      (digits ≠ [] ∧ ∀ d ∈ digits, d.isDigit = true) ∧
        n.toInt = value (Nat.ofDigitChars 10 digits 0) := by
  simp only [Option.bind_eq_some_iff, readDigits?_eq_some, int64?_eq_some]
  constructor
  · rintro ⟨m, ⟨nonempty, all, rfl⟩, fits⟩
    exact ⟨⟨nonempty, all⟩, fits⟩
  · rintro ⟨⟨nonempty, all⟩, fits⟩
    exact ⟨_, ⟨nonempty, all, rfl⟩, fits⟩

/-- A text is read as the number that it denotes; one with a plus sign is left out here. -/
theorem readInt64?_eq_some_iff {text : List Char} {n : Int64} (noPlus : text.head? ≠ some '+') :
    readInt64? text = some n ↔ Denotes text n := by
  unfold readInt64? Denotes
  split
  · rename_i digits
    rw [bind_readDigits?_eq_some]
    constructor
    · rintro ⟨read, value⟩
      exact ⟨digits, read, .inr ⟨rfl, value⟩⟩
    · rintro ⟨_, read, ⟨rfl, -⟩ | ⟨same, value⟩⟩
      · exact absurd (read.2 '-' List.mem_cons_self) (by decide)
      · cases same
        exact ⟨read, value⟩
  · exact absurd rfl noPlus
  · rename_i noMinus _
    rw [bind_readDigits?_eq_some]
    constructor
    · rintro ⟨read, value⟩
      exact ⟨text, read, .inl ⟨rfl, value⟩⟩
    · rintro ⟨_, read, ⟨rfl, value⟩ | ⟨same, -⟩⟩
      · exact ⟨read, value⟩
      · exact absurd same (noMinus _)

/-- A number is denoted without a plus sign. -/
theorem Denotes.head?_ne_plus {text : List Char} {n : Int64} (denotes : Denotes text n) :
    text.head? ≠ some '+' := by
  obtain ⟨digits, ⟨-, all⟩, ⟨rfl, -⟩ | ⟨rfl, -⟩⟩ := denotes
  · intro plus
    exact absurd (all '+' (List.mem_of_mem_head? plus)) (by decide)
  · rintro ⟨⟩

/-! ## What is written is read -/

/-- A natural number is read from its own digits. -/
theorem readDigits?_repr (n : Nat) : readDigits? n.repr.toList = some n :=
  readDigits?_eq_some.2
    ⟨toList_repr_ne_nil n, fun _ mem => isDigit_of_mem_repr mem, ofDigitChars_repr n⟩

/-- The text of a number denotes it. -/
theorem denotes_integerText (n : Int64) : Denotes (integerText n.toInt).toList n := by
  refine ⟨n.toInt.natAbs.repr.toList, ⟨toList_repr_ne_nil _, fun _ mem => isDigit_of_mem_repr mem⟩,
    ?_⟩
  rw [ofDigitChars_repr]
  by_cases negative : n.toInt < 0
  · exact .inr ⟨toList_integerText_of_neg negative, by omega⟩
  · exact .inl ⟨toList_integerText_of_nonneg (Int.not_lt.1 negative), by omega⟩

/-- A 64-bit integer is read from its text. -/
theorem readInt64?_integerText (n : Int64) :
    readInt64? (integerText n.toInt).toList = some n :=
  have denotes := denotes_integerText n
  (readInt64?_eq_some_iff denotes.head?_ne_plus).2 denotes

end WarehouseSchema.Text
