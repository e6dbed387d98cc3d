import WarehouseSchema.Text.Blank

/-!
# Words read without regard to case

Keywords, type names and flags are compared up to the case of the letters `A` to `Z`; every other
character stands for itself, also where Unicode has a case pair for it. A keyword at the beginning
of a longer text is looked for by its size in bytes, so the beginning that is compared exists only
where that size does not end inside a character.
-/

set_option autoImplicit false

namespace WarehouseSchema.Text

/-- Whether two texts are equal up to the case of ASCII letters. -/
def sameLetters (a b : String) : Bool :=
  a.toList.map Char.toLower == b.toList.map Char.toLower

/-- The characters that fill exactly the first `size` bytes of a text, or nothing where the text is
shorter or a character crosses that border. -/
def headOfSize? : Nat → List Char → Option (List Char)
  | 0, _ => some []
  | _ + 1, [] => none
  | size + 1, c :: rest =>
    if c.utf8Size ≤ size + 1 then (headOfSize? (size + 1 - c.utf8Size) rest).map (c :: ·) else none
termination_by _ text => text.length

/-- Whether a text begins with a word, up to the case of ASCII letters. -/
def beginsWithWord (word text : String) : Bool :=
  match headOfSize? word.utf8ByteSize text.toList with
  | some head => sameLetters (String.ofList head) word
  | none => false

theorem sameLetters_iff {a b : String} :
    sameLetters a b = true ↔ a.toList.map Char.toLower = b.toList.map Char.toLower := by
  simp [sameLetters]

theorem sameLetters_refl (a : String) : sameLetters a a = true := by simp [sameLetters]

end WarehouseSchema.Text
