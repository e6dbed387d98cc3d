import Mathlib.Data.String.Basic
import WarehouseSchema.Text.Letters

/-!
# What a text begins with

Whether a text begins with a word is looked up by size: the characters that fill as many bytes as
the word are compared with it, and there may be no such characters, where the border falls inside
one. Read by characters it is the same question. Letters that differ in case have the same size, so
characters that spell the word end where its size does, and others than these are never compared
with success.

## What is proved

`headOfSize?_eq_some` says which characters are found by size, and `beginsWithWord_eq` that the
answer is that of comparing as many characters as the word has.
-/

set_option autoImplicit false

namespace WarehouseSchema.Text

open String (utf8Len)

/-- The first characters of a text, or all of a shorter one. -/
def firstCharacters (count : Nat) (text : String) : String := String.ofList (text.toList.take count)

/-! ## Sizes -/

/-- The case of a letter does not change its size: only letters of ASCII are changed, and they
remain letters of ASCII. -/
theorem utf8Size_toLower (c : Char) : c.toLower.utf8Size = c.utf8Size := by
  unfold Char.toLower
  split
  · rename_i upper
    have size : c.utf8Size = 1 :=
      Char.utf8Size_eq_one_iff.2 (UInt32.le_trans upper.2 (by decide))
    have last : c.val.toNat ≤ 90 := UInt32.le_iff_toNat_le.1 upper.2
    rw [size, Char.utf8Size_eq_one_iff, UInt32.le_iff_toNat_le]
    show (c.val + 32).toNat ≤ 127
    have shift : (32 : UInt32).toNat = 32 := rfl
    rw [UInt32.toNat_add]
    omega
  · rfl

theorem utf8Len_map_toLower (text : List Char) :
    utf8Len (text.map Char.toLower) = utf8Len text := by
  induction text with
  | nil => rfl
  | cons c rest ih =>
    rw [List.map_cons, String.utf8Len_cons, String.utf8Len_cons, ih, utf8Size_toLower]

/-- Texts that are equal up to the case of letters have the same size. -/
theorem utf8Len_eq_of_letters {first second : List Char}
    (same : first.map Char.toLower = second.map Char.toLower) : utf8Len first = utf8Len second := by
  rw [← utf8Len_map_toLower first, same, utf8Len_map_toLower]

/-! ## Characters that fill a size -/

/-- What is found by size is the beginning of the text that has this size. -/
theorem headOfSize?_eq_some {size : Nat} {text head : List Char} :
    headOfSize? size text = some head ↔ head <+: text ∧ utf8Len head = size := by
  fun_induction headOfSize? size text generalizing head with
  | case1 text =>
    constructor
    · intro found
      cases found
      exact ⟨List.nil_prefix, rfl⟩
    · intro begins
      rw [String.utf8Len_eq_zero.1 begins.2]
  | case2 size =>
    simp only [reduceCtorEq, List.prefix_nil, false_iff]
    intro begins
    rw [begins.1] at begins
    cases begins.2
  | case3 size c rest fits ih =>
    have positive := c.utf8Size_pos
    cases head with
    | nil => simp
    | cons d more =>
      simp only [Option.map_eq_some_iff, List.cons.injEq, List.cons_prefix_cons, ih,
        String.utf8Len_cons]
      constructor
      · intro found
        obtain ⟨_, ⟨begins, fills⟩, rfl, rfl⟩ := found
        exact ⟨⟨rfl, begins⟩, by omega⟩
      · intro begins
        obtain ⟨⟨rfl, begins⟩, fills⟩ := begins
        exact ⟨more, ⟨begins, by omega⟩, rfl, rfl⟩
  | case4 size c rest crossed =>
    simp only [reduceCtorEq, false_iff]
    intro begins
    cases head with
    | nil => cases begins.2
    | cons d more =>
      -- a character that crosses the border makes every beginning too long
      obtain ⟨rfl, -⟩ := List.cons_prefix_cons.1 begins.1
      have fills := begins.2
      rw [String.utf8Len_cons] at fills
      omega

/-! ## Words -/

/-- A text begins with a word where its letters are a beginning of those of the text. -/
theorem beginsWithWord_iff {word text : String} :
    beginsWithWord word text = true ↔
      word.toList.map Char.toLower <+: text.toList.map Char.toLower := by
  unfold beginsWithWord
  constructor
  · intro begins
    split at begins
    · rename_i head found
      have letters := sameLetters_iff.1 begins
      rw [String.toList_ofList] at letters
      rw [← letters]
      exact (headOfSize?_eq_some.1 found).1.map _
    · cases begins
  · intro begins
    obtain ⟨head, prefixed, letters⟩ := List.prefix_map_iff.1 begins
    have fills : utf8Len head = word.utf8ByteSize := by
      rw [← String.utf8Len_toList]
      exact utf8Len_eq_of_letters letters.symm
    rw [headOfSize?_eq_some.2 ⟨prefixed, fills⟩]
    refine sameLetters_iff.2 ?_
    rw [String.toList_ofList, letters]

/-- A text begins with a word where as many characters as the word has are the word. -/
theorem beginsWithWord_eq (word text : String) :
    beginsWithWord word text = sameLetters (firstCharacters word.length text) word := by
  rw [Bool.eq_iff_iff, beginsWithWord_iff, sameLetters_iff, firstCharacters, String.toList_ofList,
    List.map_take, List.prefix_iff_eq_take, List.length_map, String.length_toList, eq_comm]

end WarehouseSchema.Text
