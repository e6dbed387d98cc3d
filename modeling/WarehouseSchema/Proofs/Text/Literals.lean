import WarehouseSchema.Metadata.Columns
import WarehouseSchema.Proofs.Text.Tokens
import WarehouseSchema.Proofs.Text.Words

/-!
# Literals, and texts between quotes

A literal writes each quote of its text twice. To take the quotes off a text is to drop the outer
two and to read each pair inside as one quote. A quote that has no other beside it is kept, so that
more texts lose their quotes than are literals.

## What is proved

`literal_reads_back`: a literal gives its text back, and a scan from its opening quote ends where
the literal ends, exactly where no quote follows it.

`unquoted_is_its_literal_iff`: a text that loses its quotes is the literal of what is left exactly
where the quotes inside it stand in pairs. As the default of a column it counts as a string in any
case.

`Paired` says of a text that its quotes stand in pairs: these are the insides of literals.
-/

set_option autoImplicit false

namespace WarehouseSchema

namespace Quoted

/-! ## The insides of literals -/

/-- Every run of quotes is of even length. -/
inductive Paired : List Char → Prop where
  | nil : Paired []
  | pair {rest : List Char} (paired : Paired rest) : Paired ('\'' :: '\'' :: rest)
  | other {c : Char} {rest : List Char} (other : c ≠ '\'') (paired : Paired rest) :
      Paired (c :: rest)

/-- Doubled quotes stand in pairs. -/
theorem paired_doubled (text : List Char) : Paired (doubled text) := by
  induction text with
  | nil => exact .nil
  | cons c rest ih =>
    rw [doubled]
    split
    · exact .pair ih
    · rename_i other
      exact .other other ih

/-- A character that is no quote is kept. -/
theorem undoubled_cons_of_ne {c : Char} (other : c ≠ '\'') (rest : List Char) :
    undoubled (c :: rest) = c :: undoubled rest := by
  cases rest with
  | nil => rfl
  | cons d more => rw [undoubled, if_neg fun both => other both.1]

/-- Quotes that stand in pairs are restored. -/
theorem Paired.doubled_undoubled {inside : List Char} (paired : Paired inside) :
    doubled (undoubled inside) = inside := by
  induction paired with
  | nil => rfl
  | pair _ ih => rw [undoubled, if_pos ⟨rfl, rfl⟩, doubled, if_pos rfl, ih]
  | other other _ ih => rw [undoubled_cons_of_ne other, doubled, if_neg other, ih]

/-- Doubling restores what was read where the quotes stand in pairs, and nowhere else. -/
theorem doubled_undoubled_iff {inside : List Char} :
    doubled (undoubled inside) = inside ↔ Paired inside := by
  constructor
  · intro same
    rw [← same]
    exact paired_doubled _
  · exact Paired.doubled_undoubled

/-! ## Taking the quotes off -/

/-- Quotes are taken off a text that begins and ends with a quote of its own, whatever stands
between the two. -/
theorem unquote?_eq_some {text content : String} :
    unquote? text = some content ↔
      ∃ inside, text.toList = '\'' :: inside ++ ['\''] ∧ undoubled inside = content.toList := by
  unfold unquote?
  constructor
  · intro read
    split at read
    · cases read
    · rename_i opening rest characters
      split at read
      · rename_i quotes
        obtain ⟨rfl, last⟩ := quotes
        cases read
        refine ⟨rest.dropLast, ?_, String.toList_ofList.symm⟩
        rw [characters, List.cons_append, List.dropLast_append_getLast? _ last]
      · cases read
  · rintro ⟨inside, characters, same⟩
    rw [characters]
    dsimp only [List.cons_append]
    rw [if_pos ⟨rfl, List.getLast?_concat⟩, List.dropLast_concat, same, String.ofList_toList]

/-- The text that is read from a text between quotes has the text as its literal exactly where the
quotes inside stand in pairs. -/
theorem eq_literal_iff_paired {text content : String} {inside : List Char}
    (characters : text.toList = '\'' :: inside ++ ['\''])
    (read : undoubled inside = content.toList) : text = literal content ↔ Paired inside := by
  rw [← String.toList_inj, characters, toList_literal, ← read, ← doubled_undoubled_iff,
    List.cons_append, List.cons_append, List.cons.injEq, List.append_cancel_right_eq]
  exact ⟨fun same => same.2.symm, fun same => ⟨rfl, same.symm⟩⟩

end Quoted

/-- A text that loses its quotes is read as a string: it is not empty and names no truth value. -/
theorem Metadata.defaultOf_of_unquote? {text content : String}
    (read : Quoted.unquote? text = some content) :
    defaultOf text = some (.literal (.string content)) := by
  obtain ⟨inside, characters, -⟩ := Quoted.unquote?_eq_some.1 read
  have present : text ≠ "" := by
    rintro rfl
    cases characters
  have noTruth : Keyword.truthValue? text = none :=
    Keyword.truthValue?_of_opening characters (by decide) (by decide)
  rw [defaultOf, if_neg present, noTruth, read]

namespace Quoted

open Statement (Token)

/-- A text that loses its quotes is the literal of what is left exactly where the quotes inside it
stand in pairs. As a default it is read as a string, whether they do or not. -/
theorem unquoted_is_its_literal_iff {text content : String} (read : unquote? text = some content) :
    (∃ inside, text.toList = '\'' :: inside ++ ['\''] ∧ undoubled inside = content.toList ∧
      (text = literal content ↔ Paired inside)) ∧
    Metadata.defaultOf text = some (.literal (.string content)) := by
  obtain ⟨inside, characters, same⟩ := unquote?_eq_some.1 read
  exact ⟨⟨inside, characters, same, eq_literal_iff_paired characters same⟩,
    Metadata.defaultOf_of_unquote? read⟩

/-- Runs of two and of four quotes inside stand in pairs. -/
theorem unquoted_is_its_literal_iff_at_runs :
    unquote? "'it''s '''''" = some "it's ''" ∧ "'it''s '''''" = literal "it's ''" ∧
      Metadata.defaultOf "'it''s '''''" = some (.literal (.string "it's ''")) := by
  have read : unquote? "'it''s '''''" = some "it's ''" := by decide +kernel
  obtain ⟨⟨inside, characters, undoubles, own⟩, string⟩ := unquoted_is_its_literal_iff read
  have written : inside = doubled "it's ''".toList :=
    List.append_cancel_right (List.cons.inj characters).2.symm
  refine ⟨read, own.2 ?_, string⟩
  rw [written]
  exact paired_doubled _

/-- Two literals with words between them lose the first and the last of their quotes. -/
theorem quotes_are_taken_off_two_literals :
    unquote? "'a' || 'b'" = some "a' || 'b" ∧ "'a' || 'b'" ≠ literal "a' || 'b" ∧
      Metadata.defaultOf "'a' || 'b'" = some (.literal (.string "a' || 'b")) := by
  have read : unquote? "'a' || 'b'" = some "a' || 'b" := by decide +kernel
  exact ⟨read, by decide +kernel, Metadata.defaultOf_of_unquote? read⟩

/-- A literal gives its text back, and a scan from its opening quote ends where the literal ends,
exactly where no quote follows it. -/
theorem literal_reads_back (text : String) :
    unquote? (literal text) = some text ∧
      ∀ rest : List Char,
        Token.first? ((literal text).toList ++ rest) = some (.literal text, rest) ↔
          rest.head? ≠ some '\'' := by
  refine ⟨unquote?_literal text, fun rest => ?_⟩
  have scanned : Token.first? ((literal text).toList ++ rest) =
      (Text.literalRest? (doubled text.toList ++ '\'' :: rest)).map
        fun read => (.literal (String.ofList read.1), read.2) := by
    rw [toList_literal, List.cons_append, List.cons_append, List.append_assoc,
      List.singleton_append]
    rfl
  rw [scanned]
  constructor
  · intro read
    obtain ⟨⟨content, after⟩, found, same⟩ := Option.map_eq_some_iff.1 read
    cases same
    obtain ⟨-, ends⟩ := Text.literalRest?_eq_some.1 found
    intro opens
    exact absurd (ends '\'' opens) (by decide)
  -- A quote right after the literal would be taken for a doubled one.
  · intro other
    have ends : Text.Unopened (· == '\'') rest := by
      intro c opens
      refine beq_eq_false_iff_ne.2 fun same => other ?_
      rw [← same]
      exact opens
    rw [Text.literalRest?_doubled ends, Option.map_some]
    dsimp only
    rw [String.ofList_toList]

end Quoted

end WarehouseSchema
