import WarehouseSchema.Json.Strings

/-!
# Strings are read as they are written

Every character of a written string is read as the code point that it is, whether it stands for
itself, is escaped by a letter or by four digits, and code points of characters are never halves of
a surrogate pair.
-/

set_option autoImplicit false

namespace WarehouseSchema.JsonText

/-! ## Code points -/

/-- The code point of a character is outside the range of the surrogates. -/
theorem not_surrogate_toNat (c : Char) : ¬(0xD800 ≤ c.toNat ∧ c.toNat ≤ 0xDFFF) := by
  rcases c.valid with low | ⟨high, _⟩
  · have below : c.toNat < 0xD800 := low
    omega
  · have above : 0xDFFF < c.toNat := high
    omega

theorem ofCodes?_map_toNat (text : List Char) : ofCodes? (text.map Char.toNat) = some text := by
  induction text with
  | nil => rfl
  | cons c rest ih =>
    have single := not_surrogate_toNat c
    cases rest with
    | nil => rw [List.map_cons, List.map_nil, ofCodes?, if_neg single, Char.ofNat_toNat]
    | cons d rest =>
      have noPair : ¬(0xD800 ≤ c.toNat ∧ c.toNat ≤ 0xDBFF ∧ 0xDC00 ≤ d.toNat ∧ d.toNat ≤ 0xDFFF) :=
        fun pair => single ⟨pair.1, by omega⟩
      rw [List.map_cons] at ih
      rw [List.map_cons, List.map_cons, ofCodes?, if_neg noPair, if_neg single, ih,
        Char.ofNat_toNat]
      rfl

/-! ## Escapes -/

/-- A control is escaped by the two digits of its code point. -/
theorem hexNumber?_control {n : Nat} (control : n < 0x20) :
    hexNumber? ['0', '0', (n / 16).digitChar, (n % 16).digitChar] = some n := by
  have every : ∀ n < 0x20,
      hexNumber? ['0', '0', (n / 16).digitChar, (n % 16).digitChar] = some n := by
    decide
  exact every n control

theorem ofEscapeLetter?_of_escapeLetter? {c letter : Char}
    (escapes : escapeLetter? c = some letter) :
    ofEscapeLetter? letter = some c ∧ letter ≠ 'u' := by
  unfold escapeLetter? at escapes
  repeat' split at escapes
  all_goals first | (cases escapes; subst c; decide) | cases escapes

/-- A character without an escape of its own is no quote and no backslash. -/
theorem ne_of_escapeLetter?_eq_none {c : Char} (plain : escapeLetter? c = none) :
    c ≠ '"' ∧ c ≠ '\\' := by
  constructor
  · rintro rfl
    cases plain
  · rintro rfl
    cases plain

theorem bodyCodes_letter {c letter : Char} (read : ofEscapeLetter? letter = some c)
    (noNumber : letter ≠ 'u') (rest : List Char) :
    bodyCodes ('\\' :: letter :: rest) =
      (bodyCodes rest).map fun read => (c.toNat :: read.1, read.2) := by
  rw [bodyCodes, read]
  · cases bodyCodes rest <;> rfl
  · intro a b c d tail same _
    exact noNumber same

theorem bodyCodes_number {n : Nat} {a b c d : Char}
    (read : hexNumber? [a, b, c, d] = some n) (rest : List Char) :
    bodyCodes ('\\' :: 'u' :: a :: b :: c :: d :: rest) =
      (bodyCodes rest).map fun read => (n :: read.1, read.2) := by
  rw [bodyCodes, read]
  cases bodyCodes rest <;> rfl

/-- A character that is written is read as its code point. -/
theorem bodyCodes_escaped (c : Char) (rest : List Char) :
    bodyCodes (escaped c ++ rest) =
      (bodyCodes rest).map fun read => (c.toNat :: read.1, read.2) := by
  unfold escaped
  cases escapes : escapeLetter? c with
  | some letter =>
    obtain ⟨read, noNumber⟩ := ofEscapeLetter?_of_escapeLetter? escapes
    exact bodyCodes_letter read noNumber rest
  | none =>
    obtain ⟨noQuote, noBackslash⟩ := ne_of_escapeLetter?_eq_none escapes
    dsimp only
    split
    · rename_i control
      exact bodyCodes_number (hexNumber?_control control) rest
    · rename_i printed
      rw [List.singleton_append, bodyCodes, if_neg printed]
      · exact noQuote
      · intro _ _ _ _ _ backslash _
        exact noBackslash backslash
      · intro _ _ backslash _
        exact noBackslash backslash

/-- The body of a written string is read up to its closing quote. -/
theorem bodyCodes_flatMap_escaped (text after : List Char) :
    bodyCodes (text.flatMap escaped ++ '"' :: after) = some (text.map Char.toNat, after) := by
  induction text with
  | nil => rfl
  | cons c rest ih =>
    rw [List.flatMap_cons, List.append_assoc, bodyCodes_escaped, ih]
    rfl

end WarehouseSchema.JsonText
