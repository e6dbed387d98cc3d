import Mathlib.Data.List.Forall2
import Mathlib.Data.List.Infix
import WarehouseSchema.Text.Letters

/-!
# Patterns for names

A question about existing names gives a pattern. A percent sign in it stands for any characters, an
underscore for any one, and every other character for itself, up to the case of ASCII letters. A
name that is given for a pattern is read in the same way, sign by sign.

## What is proved

`covers_iff` joins what a pattern covers to a search that decides it. A name covers whatever is
spelled with its letters, and `covers_only_its_letters_iff` says when it covers nothing else:
exactly when it holds neither of the two signs, for otherwise it covers the name with a letter in
the place of each.
-/

set_option autoImplicit false

namespace WarehouseSchema.NamePattern

/-- Whether a character of a pattern stands for others than itself. -/
def isWildcard (c : Char) : Bool := c == '%' || c == '_'

/-- What a character of a pattern stands for. -/
inductive StandsFor : Char → List Char → Prop where
  | sequence (passed : List Char) : StandsFor '%' passed
  | one (d : Char) : StandsFor '_' [d]
  | letter {c d : Char} (plain : isWildcard c = false) (same : c.toLower = d.toLower) :
      StandsFor c [d]

/-- The names that a pattern stands for. -/
inductive Covers : List Char → List Char → Prop where
  | nil : Covers [] []
  | cons {c : Char} {pattern passed rest : List Char} (first : StandsFor c passed)
      (later : Covers pattern rest) : Covers (c :: pattern) (passed ++ rest)

/-- What may be left of a name behind what a character of a pattern stands for. -/
def remainders (c : Char) (name : List Char) : List (List Char) :=
  if c = '%' then name.tails
  else match name with
    | [] => []
    | d :: rest => if c = '_' ∨ c.toLower = d.toLower then [rest] else []

/-- Whether a pattern covers a name. -/
def covers : List Char → List Char → Bool
  | [], name => name.isEmpty
  | c :: pattern, name => (remainders c name).any (covers pattern)

variable {c d : Char} {pattern name : List Char}

/-- There are two wildcards, one for any text and one for any character. -/
theorem isWildcard_iff : isWildcard c = true ↔ c = '%' ∨ c = '_' := by simp [isWildcard]

/-- A character other than a percent sign stands for one character. -/
theorem standsFor_iff (other : c ≠ '%') {passed : List Char} :
    StandsFor c passed ↔ ∃ d, passed = [d] ∧ (c = '_' ∨ c.toLower = d.toLower) := by
  constructor
  · intro stands
    cases stands with
    | sequence => exact absurd rfl other
    | one d => exact ⟨d, rfl, .inl rfl⟩
    | letter _ same => exact ⟨_, rfl, .inr same⟩
  · rintro ⟨d, rfl, either⟩
    by_cases one : c = '_'
    · subst one
      exact .one d
    · refine .letter ?_ (either.resolve_left one)
      simp [isWildcard, other, one]

/-- What may remain of a name is what is left after a beginning that the character stands for. -/
theorem mem_remainders {rest : List Char} :
    rest ∈ remainders c name ↔ ∃ passed, name = passed ++ rest ∧ StandsFor c passed := by
  unfold remainders
  by_cases sequence : c = '%'
  · subst sequence
    rw [if_pos rfl, List.mem_tails]
    constructor
    · rintro ⟨passed, rfl⟩
      exact ⟨passed, rfl, .sequence passed⟩
    · rintro ⟨passed, rfl, -⟩
      exact List.suffix_append passed rest
  · simp only [if_neg sequence, standsFor_iff sequence]
    cases name with
    | nil => simp
    | cons d left => by_cases fits : c = '_' ∨ c.toLower = d.toLower <;> simp [fits, eq_comm]

/-- The search finds exactly the names that the pattern covers. -/
theorem covers_iff : covers pattern name = true ↔ Covers pattern name := by
  induction pattern generalizing name with
  | nil =>
    rw [covers, List.isEmpty_iff]
    constructor
    · rintro rfl
      exact .nil
    · intro covered
      cases covered
      rfl
  | cons c pattern ih =>
    rw [covers, List.any_eq_true]
    constructor
    · rintro ⟨rest, left, later⟩
      obtain ⟨passed, rfl, first⟩ := mem_remainders.1 left
      exact .cons first (ih.1 later)
    · intro covered
      cases covered with
      | cons first later => exact ⟨_, mem_remainders.2 ⟨_, rfl, first⟩, ih.2 later⟩

instance (pattern name : List Char) : Decidable (Covers pattern name) :=
  decidable_of_iff _ covers_iff

/-! ## A name as a pattern -/

/-- A pattern covers the names with a fitting character in each place. -/
theorem covers_of_forall₂ (each : List.Forall₂ (fun c d => StandsFor c [d]) pattern name) :
    Covers pattern name := by
  induction each with
  | nil => exact .nil
  | cons first _ ih => exact .cons first ih

/-- A letter stands for itself in either case. -/
theorem standsFor_of_letter (same : c.toLower = d.toLower) : StandsFor c [d] := by
  by_cases sequence : c = '%'
  · subst sequence
    exact .sequence [d]
  · exact (standsFor_iff sequence).2 ⟨d, rfl, .inr same⟩

/-- A name covers whatever is spelled with its letters. -/
theorem covers_of_letters (same : pattern.map Char.toLower = name.map Char.toLower) :
    Covers pattern name := by
  rw [← List.forall₂_eq_eq_eq, List.forall₂_map_left_iff, List.forall₂_map_right_iff] at same
  exact covers_of_forall₂ (same.imp fun _ _ => standsFor_of_letter)

/-- What a name without wildcards covers is spelled with its letters. -/
theorem letters_of_covers (plain : ∀ c ∈ pattern, isWildcard c = false)
    (covered : Covers pattern name) : pattern.map Char.toLower = name.map Char.toLower := by
  induction covered with
  | nil => rfl
  | cons first _ ih =>
    obtain ⟨head, tail⟩ := List.forall_mem_cons.1 plain
    cases first with
    | sequence => cases head
    | one => cases head
    | letter _ same =>
      rw [List.map_cons, same, ih tail]
      rfl

/-- A character with a letter in the place of a wildcard. -/
def disguised (c : Char) : Char := if isWildcard c then 'x' else c

/-- A wildcard stands for the character that is put in its place. -/
theorem standsFor_disguised (c : Char) : StandsFor c [disguised c] := by
  by_cases wildcard : isWildcard c = true
  · rcases isWildcard_iff.1 wildcard with rfl | rfl
    · exact .sequence _
    · exact .one _
  · rw [disguised, if_neg wildcard]
    exact standsFor_of_letter rfl

/-- A pattern covers its disguise. -/
theorem covers_disguised (pattern : List Char) : Covers pattern (pattern.map disguised) :=
  covers_of_forall₂ (List.forall₂_map_right_iff.2
    (List.forall₂_same.2 fun c _ => standsFor_disguised c))

/-- A wildcard is never the same letter as what disguises it. -/
theorem toLower_disguised (same : c.toLower = (disguised c).toLower) : isWildcard c = false := by
  rw [Bool.eq_false_iff]
  intro wildcard
  rw [disguised, if_pos wildcard] at same
  rcases isWildcard_iff.1 wildcard with rfl | rfl <;> cases same

/-- A name covers nothing but what is spelled with its letters exactly when it holds no wildcard. -/
theorem covers_only_its_letters_iff :
    (∀ name, Covers pattern name → pattern.map Char.toLower = name.map Char.toLower) ↔
      ∀ c ∈ pattern, isWildcard c = false := by
  constructor
  · intro only c mem
    -- The disguised name is covered, so it has the letters of the pattern, and no wildcard does.
    have letters := only _ (covers_disguised pattern)
    rw [List.map_map, List.map_inj_left] at letters
    exact toLower_disguised (letters c mem)
  · intro plain name covered
    exact letters_of_covers plain covered

end WarehouseSchema.NamePattern
