import WarehouseSchema.Keyword
import WarehouseSchema.Proofs.Text.Beginning
import WarehouseSchema.Proofs.Text.Blank
import WarehouseSchema.Quoted

/-!
# What a text is taken for

Whether a text calls a function or names a truth value is told by its beginning, once the blanks
before it are left out. A call begins with one of a few letters, so no string literal is a call, and
neither is a number or the text of an array or an object. No text is both a call and a truth value.

## What is proved

`isFunctionCall_reads_first_characters`: a text is a call exactly where its first characters are the
name of a function up to the case of ASCII letters, whichever sizes its characters have.
-/

set_option autoImplicit false

namespace WarehouseSchema

namespace Text

/-- A text that opens with another character than a word does not begin with the word. -/
theorem not_prefix_of_opening {c : Char} {text word : String} {rest openings : List Char}
    (opens : text.toList = c :: rest) (noBlank : isBlank c = false) (other : c.toLower ∉ openings)
    (opened : ∃ d ∈ openings, (word.toList.map Char.toLower).head? = some d) :
    ¬ word.toList.map Char.toLower <+: (trim text).toList.map Char.toLower := by
  intro begins
  obtain ⟨more, trimmed⟩ := toList_trim_of_opening opens noBlank
  obtain ⟨d, among, first⟩ := opened
  obtain ⟨letters, spelled⟩ := List.head?_eq_some_iff.1 first
  rw [spelled, trimmed, List.map_cons] at begins
  exact other ((List.cons_prefix_cons.1 begins).1 ▸ among)

end Text

namespace Keyword

open Text

/-! ## Calls of functions -/

/-- A text calls a function where it begins with the name of one, in any case and behind any
blanks. -/
theorem isFunctionCall_iff {text : String} :
    isFunctionCall text = true ↔ ∃ name ∈ defaultFunctions,
      name.toList.map Char.toLower <+: (trim text).toList.map Char.toLower := by
  simp only [isFunctionCall, List.any_eq_true, beginsWithWord_iff]

/-- The letters that the names of the functions begin with. -/
def callOpenings : List Char := ['c', 's', 't', 'u']

/-- A text that opens with another character than the name of a function is no call. -/
theorem isFunctionCall_of_opening {c : Char} {text : String} {rest : List Char}
    (opens : text.toList = c :: rest) (noBlank : isBlank c = false)
    (other : c.toLower ∉ callOpenings) : isFunctionCall text = false := by
  rw [Bool.eq_false_iff]
  intro call
  obtain ⟨name, known, begins⟩ := isFunctionCall_iff.1 call
  have opened : ∀ name ∈ defaultFunctions,
      ∃ d ∈ callOpenings, (name.toList.map Char.toLower).head? = some d := by
    simp [defaultFunctions, callOpenings]
  exact not_prefix_of_opening opens noBlank other (opened name known) begins

/-- What is compared with the name of a function are as many first characters as the name has. Where
the size of the name ends inside a character, and where the text is shorter than the name, they are
not the name. -/
theorem isFunctionCall_reads_first_characters (text : String) :
    let word := trim text
    (isFunctionCall text = true ↔
        ∃ name ∈ defaultFunctions, sameLetters (firstCharacters name.length word) name = true) ∧
      ∀ name ∈ defaultFunctions,
        beginsWithWord name word = sameLetters (firstCharacters name.length word) name ∧
          (headOfSize? name.utf8ByteSize word.toList = none →
            sameLetters (firstCharacters name.length word) name = false) ∧
          (word.length < name.length → beginsWithWord name word = false) := by
  intro word
  refine ⟨?_, fun name known => ⟨beginsWithWord_eq name word, fun crossed => ?_, fun short => ?_⟩⟩
  · simp only [isFunctionCall, List.any_eq_true, beginsWithWord_eq, word]
  · rw [← beginsWithWord_eq, beginsWithWord, crossed]
  · rw [Bool.eq_false_iff]
    intro begins
    have fits := (beginsWithWord_iff.1 begins).length_le
    simp only [List.length_map, String.length_toList] at fits
    omega

/-- The size of a name ends inside the last letter of a word that differs from it in an accent. -/
theorem isFunctionCall_reads_first_characters_at_accent :
    let accented := "\u3000Sysdaté()"
    "sysdate" ∈ defaultFunctions ∧
      headOfSize? "sysdate".utf8ByteSize (trim accented).toList = none ∧
      sameLetters (firstCharacters "sysdate".length (trim accented)) "sysdate" = false ∧
      "convert_timezone" ∈ defaultFunctions ∧
      (trim accented).length < "convert_timezone".length ∧
      beginsWithWord "convert_timezone" (trim accented) = false ∧
      isFunctionCall accented = false ∧ isFunctionCall "\u3000Sysdate()é" = true := by
  intro accented
  have known : "sysdate" ∈ defaultFunctions := by decide
  have longer : "convert_timezone" ∈ defaultFunctions := by decide
  have crossed : headOfSize? "sysdate".utf8ByteSize (trim accented).toList = none := by
    decide +kernel
  have short : (trim accented).length < "convert_timezone".length := by decide +kernel
  obtain ⟨calls, compared⟩ := isFunctionCall_reads_first_characters accented
  obtain ⟨called, -⟩ := isFunctionCall_reads_first_characters "\u3000Sysdate()é"
  refine ⟨known, crossed, (compared _ known).2.1 crossed, longer, short,
    (compared _ longer).2.2 short, ?_, called.2 ⟨"sysdate", known, by decide +kernel⟩⟩
  rw [Bool.eq_false_iff, Ne, calls]
  decide +kernel

/-- A literal calls no function, since it begins with a quote. -/
theorem isFunctionCall_literal (text : String) : isFunctionCall (Quoted.literal text) = false :=
  isFunctionCall_of_opening (Quoted.toList_literal text) (by decide) (by decide)

/-! ## Truth values -/

theorem truthValue?_eq_none {text : String}
    (other : ∀ word ∈ ["true", "false"], ¬ sameLetters (trim text) word = true) :
    truthValue? text = none := by
  rw [truthValue?, if_neg (other "true" (by simp)), if_neg (other "false" (by simp))]

/-- A truth value is named by its word. -/
theorem truthValue?_ofBool (b : Bool) : truthValue? (ofBool b) = some b := by
  cases b <;> decide

/-- A call names no truth value: `true` and `to_varchar` share no more than a letter. -/
theorem truthValue?_of_isFunctionCall {text : String} (call : isFunctionCall text = true) :
    truthValue? text = none := by
  obtain ⟨name, known, begins⟩ := isFunctionCall_iff.1 call
  have apart : ∀ word ∈ ["true", "false"], ∀ name ∈ defaultFunctions,
      ¬ name.toList.map Char.toLower <+: word.toList.map Char.toLower := by
    decide
  apply truthValue?_eq_none
  intro word among same
  rw [sameLetters_iff.1 same] at begins
  exact apart word among name known begins

/-- A truth value calls no function. -/
theorem isFunctionCall_ofBool (b : Bool) : isFunctionCall (ofBool b) = false := by
  rw [Bool.eq_false_iff]
  intro call
  have truth := truthValue?_ofBool b
  rw [truthValue?_of_isFunctionCall call] at truth
  cases truth

/-- The letters that the truth values begin with. -/
def truthOpenings : List Char := ['t', 'f']

/-- A text that opens with another character than a truth value names none. -/
theorem truthValue?_of_opening {c : Char} {text : String} {rest : List Char}
    (opens : text.toList = c :: rest) (noBlank : isBlank c = false)
    (other : c.toLower ∉ truthOpenings) : truthValue? text = none := by
  have opened : ∀ word ∈ ["true", "false"],
      ∃ d ∈ truthOpenings, (word.toList.map Char.toLower).head? = some d := by
    simp [truthOpenings]
  apply truthValue?_eq_none
  intro word among same
  apply not_prefix_of_opening opens noBlank other (opened word among)
  exact ⟨[], (List.append_nil _).trans (sameLetters_iff.1 same).symm⟩

end Keyword

end WarehouseSchema
