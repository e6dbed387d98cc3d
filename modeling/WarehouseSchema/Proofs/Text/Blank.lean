import Mathlib.Data.List.DropRight
import WarehouseSchema.Text.Blank

/-!
# What is left of a text without its blanks

A character that is no blank is never removed from the ends of a text, and one that opens the text
opens what is left of it. Once the blanks are gone there are no more to remove.
-/

set_option autoImplicit false

namespace WarehouseSchema.Text

/-- A run that is dropped ends before a character that does not belong to it. -/
theorem mem_dropWhile_of_not {α : Type} {p : α → Bool} {a : α} {items : List α} (mem : a ∈ items)
    (other : p a = false) : a ∈ items.dropWhile p := by
  induction items with
  | nil => cases mem
  | cons first rest ih =>
    rw [List.dropWhile_cons]
    split
    · rename_i dropped
      rcases List.mem_cons.1 mem with rfl | later
      · rw [other] at dropped
        cases dropped
      · exact ih later
    · exact mem

theorem mem_trimmed {c : Char} {text : List Char} (mem : c ∈ text) (noBlank : isBlank c = false) :
    c ∈ trimmed text :=
  List.mem_reverse.2 <|
    mem_dropWhile_of_not (List.mem_reverse.2 (mem_dropWhile_of_not mem noBlank)) noBlank

/-- A text with a character that is no blank is not blank. -/
theorem trim_ne_empty {c : Char} {text : String} (mem : c ∈ text.toList)
    (noBlank : isBlank c = false) : trim text ≠ "" := by
  intro empty
  have stays := mem_trimmed mem noBlank
  rw [← toList_trim, empty] at stays
  cases stays

/-- What opens a text without a blank before it still opens it when the blanks are gone. -/
theorem trimmed_cons {c : Char} (noBlank : isBlank c = false) (rest : List Char) :
    ∃ more, trimmed (c :: rest) = c :: more := by
  rw [trimmed, List.dropWhile_cons_of_neg (by simp [noBlank]), List.reverse_cons,
    List.dropWhile_append]
  split
  · exact ⟨[], by simp [noBlank]⟩
  · exact ⟨_, by rw [List.reverse_append]; rfl⟩

theorem toList_trim_of_opening {c : Char} {text : String} {rest : List Char}
    (opens : text.toList = c :: rest) (noBlank : isBlank c = false) :
    ∃ more, (trim text).toList = c :: more := by
  rw [toList_trim, opens]
  exact trimmed_cons noBlank rest

/-- No blank is left at either end of a text without its blanks. -/
theorem trimmed_trimmed (text : List Char) : trimmed (trimmed text) = trimmed text := by
  have front : (trimmed text).dropWhile isBlank = trimmed text := by
    rw [List.dropWhile_eq_self_iff]
    intro nonempty
    have begins : trimmed text <+: text.dropWhile isBlank := List.rdropWhile_prefix isBlank _
    have longer := Nat.lt_of_lt_of_le nonempty begins.length_le
    rw [begins.getElem nonempty]
    exact List.dropWhile_get_zero_not isBlank text longer
  show ((trimmed text).dropWhile isBlank).rdropWhile isBlank = _
  rw [front]
  exact List.rdropWhile_idempotent isBlank _

theorem trim_trim (text : String) : trim (trim text) = trim text := by
  rw [trim, toList_trim, trimmed_trimmed, trim]

end WarehouseSchema.Text
