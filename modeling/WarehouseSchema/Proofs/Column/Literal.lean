import WarehouseSchema.Column.Definition
import WarehouseSchema.Proofs.Json.Numeral
import WarehouseSchema.Proofs.Text.Words

/-!
# How the literals of defaults are written

The family of a type decides how the literal of a default is written. Two families write it bare: a
string as it is and any other value as its compact text. For the others a call is written as it is,
and what else there is becomes null, a truth value or a string literal.

`DataType.render_literal_of_bare` says so for the two families. For the others
`DataType.render_literal_cases` takes any value to a string and `DataType.literalText_string_cases`
says how a string is written. The theory of defaults opens nothing else of `DataType.literalText`.
-/

set_option autoImplicit false

namespace WarehouseSchema

/-! ## The family decides how a default is written -/

/-- A default is written alike for types of one family. -/
theorem ColumnDefault.render_congr {type other : DataType} (same : type.family = other.family)
    (default : ColumnDefault) : default.render type = default.render other := by
  unfold ColumnDefault.render
  split
  · rfl
  · rfl
  · rfl
  · unfold DataType.literalText
    rw [same]

/-- Types that are kept as one are of one family. -/
theorem DataType.family_eq_of_stored_eq {type other : DataType}
    (same : type.stored = other.stored) : type.family = other.family := by
  have kept (type : DataType) : type.stored.family = type.family := by cases type <;> rfl
  rw [← kept type, same, kept]

namespace JsonText

/-! ## Values that are no calls -/

/-- No number begins with a blank or like the name of a function. -/
theorem opening_of_isNumeric {c : Char} (numeric : isNumeric c = true) :
    Text.isBlank c = false ∧ c.toLower ∉ Keyword.callOpenings := by
  simp only [isNumeric, Bool.or_eq_true, beq_iff_eq] at numeric
  rcases numeric with (((digit | rfl) | rfl) | rfl) | rfl
  · have bounds : 48 ≤ c.toNat ∧ c.toNat ≤ 57 := by
      simpa [Char.isDigit, UInt32.le_iff_toNat_le] using digit
    have lower : c.toLower = c := by
      refine dif_neg fun upper => ?_
      have letter : 65 ≤ c.toNat := UInt32.le_iff_toNat_le.1 upper.1
      omega
    have letters : ∀ d ∈ Keyword.callOpenings, 57 < d.toNat := by simp [Keyword.callOpenings]
    constructor
    · grind [Text.isBlank]
    · rw [lower]
      intro opens
      have letter := letters c opens
      omega
  all_goals decide

end JsonText

namespace Json

open Keyword

/-- A number calls no function. -/
theorem isFunctionCall_compact_number (n : JsonNumber) :
    isFunctionCall (Json.number n).compact = false := by
  obtain ⟨c, rest, written⟩ := List.exists_cons_of_ne_nil (JsonText.number_ne_nil n)
  have numeric : JsonText.isNumeric c = true :=
    JsonText.Numeric.number n c (written ▸ List.mem_cons_self)
  obtain ⟨noBlank, other⟩ := JsonText.opening_of_isNumeric numeric
  have opens : (Json.number n).compact.toList = c :: rest := String.toList_ofList.trans written
  exact isFunctionCall_of_opening opens noBlank other

/-- A list calls no function. -/
theorem isFunctionCall_compact_array (items : List Json) :
    isFunctionCall (Json.array items).compact = false :=
  isFunctionCall_of_opening String.toList_ofList (by decide) (by decide)

/-- An object calls no function. -/
theorem isFunctionCall_compact_object (members : List (String × Json)) :
    isFunctionCall (Json.object members).compact = false :=
  isFunctionCall_of_opening String.toList_ofList (by decide) (by decide)

end Json

/-- The text of a value where literals stand without quotes. -/
def Json.bareText : Json → String
  | .string text => text
  | value => value.compact

namespace DataType

open Keyword

variable {type : DataType}

/-! ## Strings -/

/-- A string that calls a function is written as it is, for any type. -/
theorem literalText_of_isFunctionCall {text : String} (call : isFunctionCall text = true) :
    type.literalText (.string text) = text :=
  if_pos call

/-- A string that is no call is written as the truth value that it names to a boolean, or else in
quotes. -/
theorem literalText_string_cases {text : String} (notBare : type.family.hasBareLiterals = false)
    (noCall : isFunctionCall text = false) :
    (∃ b, type.family = .boolean ∧ truthValue? text = some b ∧
        type.literalText (.string text) = ofBool b) ∨
      ((type.family = .boolean → truthValue? text = none) ∧
        type.literalText (.string text) = Quoted.literal text) := by
  unfold literalText
  dsimp only
  rw [noCall, notBare, if_neg Bool.false_ne_true, if_neg Bool.false_ne_true]
  split
  · rename_i boolean
    split
    · rename_i b truth
      exact .inl ⟨b, boolean, truth, rfl⟩
    · rename_i noTruth
      exact .inr ⟨fun _ => noTruth, rfl⟩
  · rename_i other
    exact .inr ⟨fun boolean => absurd boolean other, rfl⟩

/-- A string that is neither a call nor a truth value of a boolean is written in quotes. -/
theorem literalText_eq_literal {text : String} (notBare : type.family.hasBareLiterals = false)
    (noCall : isFunctionCall text = false)
    (noTruth : type.family = .boolean → truthValue? text = none) :
    type.literalText (.string text) = Quoted.literal text := by
  rcases literalText_string_cases notBare noCall with ⟨b, boolean, truth, -⟩ | ⟨-, quoted⟩
  · rw [noTruth boolean] at truth
    cases truth
  · exact quoted

/-! ## Values of any kind -/

/-- A type that writes its literals bare neither quotes them nor reads them as truth values. -/
theorem family_ne_boolean_of_bare (bare : type.family.hasBareLiterals = true) :
    type.family ≠ .boolean ∧ type.family.hasQuotedLiterals = false := by
  revert bare
  cases type <;> decide

/-- Where literals are bare, every value is written as its own text. -/
theorem render_literal_of_bare (bare : type.family.hasBareLiterals = true) (value : Json) :
    (ColumnDefault.literal value).render type = value.bareText := by
  obtain ⟨noBoolean, unquoted⟩ := family_ne_boolean_of_bare bare
  cases value with
  | null => rfl
  | bool b =>
    show (if type.family.hasQuotedLiterals then _ else ofBool b) = _
    rw [unquoted, if_neg Bool.false_ne_true]
    cases b <;> rfl
  | number n =>
    show (if type.family = .boolean then _ else _) = _
    rw [if_neg noBoolean, if_pos bare]
    rfl
  | string text =>
    show (if isFunctionCall text then text else _) = text
    rw [if_pos bare, ite_self]
  | array items => exact if_pos bare
  | object members => exact if_pos bare

/-- A value is written as null, as a truth value, or as some string would be. The string calls no
function unless it is the value. -/
theorem render_literal_cases (type : DataType) (value : Json) :
    (ColumnDefault.literal value).render type = "null" ∨
      (∃ b, type.family.hasQuotedLiterals = false ∧
        (ColumnDefault.literal value).render type = ofBool b) ∨
      ∃ text, (isFunctionCall text = true → value = .string text) ∧
        (ColumnDefault.literal value).render type = type.literalText (.string text) := by
  -- A text that is no call is written as the string with this text would be.
  have likeString (text : String) (noCall : isFunctionCall text = false) {written : String}
      (same : (if isFunctionCall text then text else written) = type.literalText (.string text)) :
      ∃ text, (isFunctionCall text = true → value = .string text) ∧
        written = type.literalText (.string text) := by
    rw [noCall, if_neg Bool.false_ne_true] at same
    refine ⟨text, fun call => ?_, same⟩
    rw [noCall] at call
    cases call
  cases value with
  | null => exact .inl rfl
  | bool b =>
    cases quoted : type.family.hasQuotedLiterals with
    | true =>
      refine .inr (.inr ?_)
      show ∃ text, _ ∧ (if type.family.hasQuotedLiterals then _ else ofBool b) = _
      rw [if_pos quoted]
      exact likeString (ofBool b) (isFunctionCall_ofBool b) rfl
    | false =>
      refine .inr (.inl ⟨b, rfl, ?_⟩)
      show (if type.family.hasQuotedLiterals then _ else ofBool b) = ofBool b
      rw [quoted, if_neg Bool.false_ne_true]
  | number n =>
    by_cases boolean : type.family = .boolean
    · refine .inr (.inl ⟨!n.isZero, by rw [boolean]; rfl, ?_⟩)
      exact if_pos boolean
    · refine .inr (.inr ?_)
      show ∃ text, _ ∧ (if type.family = .boolean then ofBool !n.isZero else _) = _
      rw [if_neg boolean]
      exact likeString _ (Json.isFunctionCall_compact_number n) rfl
  | string text => exact .inr (.inr ⟨text, fun _ => rfl, rfl⟩)
  | array items =>
    exact .inr (.inr (likeString _ (Json.isFunctionCall_compact_array items) rfl))
  | object members =>
    exact .inr (.inr (likeString _ (Json.isFunctionCall_compact_object members) rfl))

end DataType

end WarehouseSchema
