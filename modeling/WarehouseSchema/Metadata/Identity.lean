import WarehouseSchema.Column.Basic
import WarehouseSchema.Text.Digit

/-!
# Identity descriptions

The warehouse describes a column that counts by itself in words. Its seed and its increment are the
first two integers in the description that fit 64 bits. An integer is a maximal run of decimal
digits of any script, with a minus sign directly before it if there is one; only ASCII digits have a
value.
-/

set_option autoImplicit false

namespace WarehouseSchema.Metadata

/-- The integers of a text as they are spelled, from left to right. -/
def spelledIntegers : List Char → List (List Char)
  | [] => []
  | c :: rest =>
    let digits := rest.takeWhile Text.isDecimalDigit
    if Text.isDecimalDigit c || (c == '-' && !digits.isEmpty) then
      (c :: digits) :: spelledIntegers (rest.dropWhile Text.isDecimalDigit)
    else spelledIntegers rest
termination_by text => text.length
decreasing_by
  · have := (List.dropWhile_sublist (p := Text.isDecimalDigit) (l := rest)).length_le
    simp only [List.length_cons]; omega
  · simp

/-- The integers of a text that fit 64 bits, from left to right. -/
def integers (text : String) : List Int64 :=
  (spelledIntegers text.toList).filterMap Text.readInt64?

/-- The identity that a description tells of. -/
def identityOf (description : String) : Identity :=
  ⟨(integers description)[0]?, (integers description)[1]?⟩

end WarehouseSchema.Metadata
