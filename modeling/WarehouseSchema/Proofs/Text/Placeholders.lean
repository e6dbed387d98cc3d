import WarehouseSchema.Insert
import WarehouseSchema.Proofs.Text.Legible

/-!
# Placeholders of a statement

A placeholder is a colon with a number behind it. A name between double quotes holds none: a colon
in it is a character of the name. `Statement.placeholders` lists the numbers of a statement's
placeholders in order, and `Statement.filled` puts a text in the place of each. The texts that are
put in are not looked at again, so they may look like placeholders themselves.

## What is proved

`Fills` tells the placeholders of a text and what becomes of it when they are filled, whatever
stands behind it, as long as that does not go on with a digit. Texts without a quote or a colon and
names have no placeholder, and lists between parentheses have those of their items.
-/

set_option autoImplicit false

namespace WarehouseSchema.Statement

open Text

/-- A piece of a statement. -/
inductive Piece where
  /-- A character that stands for itself. -/
  | character (c : Char)
  | placeholder (number : Nat)
  deriving DecidableEq, Repr

namespace Piece

/-- The pieces of a text. Where it begins inside of a name, the name goes on up to the next double
quote. -/
def cut (inName : Bool) (text : List Char) : List Piece :=
  match text with
  | [] => []
  | c :: rest =>
    if c = '"' then .character c :: cut (!inName) rest
    else if c = ':' ∧ inName = false then
      match readDigits? (rest.takeWhile Char.isDigit) with
      | some number => .placeholder number :: cut false (rest.dropWhile Char.isDigit)
      | none => .character c :: cut false rest
    else .character c :: cut inName rest
termination_by text.length
decreasing_by
  · exact Nat.lt_succ_self _
  · exact Nat.lt_succ_of_le (List.dropWhile_sublist _).length_le
  · exact Nat.lt_succ_self _
  · exact Nat.lt_succ_self _

/-- Whether a character begins neither a name nor a placeholder. -/
def isBare (c : Char) : Bool := c != '"' && c != ':'

/-- The number of a placeholder. -/
def number? : Piece → Option Nat
  | .character _ => none
  | .placeholder number => some number

/-- The text of a piece where each placeholder is shown as a text of its own. -/
def characters (shown : Nat → String) : Piece → List Char
  | .character c => [c]
  | .placeholder number => (shown number).toList

theorem cut_nil (inName : Bool) : cut inName [] = [] := by rw [cut]

/-- A double quote begins a name or ends one. -/
theorem cut_quote (inName : Bool) (rest : List Char) :
    cut inName ('"' :: rest) = .character '"' :: cut (!inName) rest := by
  rw [cut, if_pos rfl]

/-- A text without a double quote, and outside of a name without a colon, is cut into its
characters. -/
theorem cut_append {inName : Bool} {text : List Char}
    (bare : ∀ c ∈ text, c ≠ '"' ∧ (inName = false → c ≠ ':')) (rest : List Char) :
    cut inName (text ++ rest) = text.map .character ++ cut inName rest := by
  induction text with
  | nil => rfl
  | cons c more ih =>
    obtain ⟨⟨noQuote, noColon⟩, bareRest⟩ := List.forall_mem_cons.1 bare
    have noPlaceholder : ¬ (c = ':' ∧ inName = false) := fun ⟨colon, outside⟩ =>
      noColon outside colon
    rw [List.cons_append, cut, if_neg noQuote, if_neg noPlaceholder, ih bareRest]
    rfl

/-- A colon outside a name begins a placeholder, which goes on as far as the digits do. -/
theorem cut_placeholder {rest : List Char} (ends : Unopened Char.isDigit rest) (number : Nat) :
    cut false (':' :: (number.repr.toList ++ rest)) = .placeholder number :: cut false rest := by
  have digits : ∀ c ∈ number.repr.toList, c.isDigit = true := fun _ mem => isDigit_of_mem_repr mem
  rw [cut, if_neg (by decide), if_pos ⟨rfl, rfl⟩, takeWhile_append_of_unopened digits ends,
    dropWhile_append_of_unopened digits ends, readDigits?_repr]

/-- Characters that stand for themselves have no number. -/
theorem filterMap_character (text : List Char) :
    (text.map character).filterMap number? = [] := by
  rw [List.filterMap_map]
  exact List.filterMap_eq_nil_iff.2 fun _ _ => rfl

/-- Characters that stand for themselves are shown as they are. -/
theorem flatMap_character (shown : Nat → String) (text : List Char) :
    (text.map character).flatMap (characters shown) = text := by
  rw [List.flatMap_map]
  exact List.flatMap_singleton' text

end Piece

open Piece

/-- The numbers of the placeholders of a statement, in order. -/
def placeholders (text : String) : List Nat := (cut false text.toList).filterMap number?

/-- A statement with a text in the place of each placeholder. -/
def filled (shown : Nat → String) (text : String) : String :=
  String.ofList ((cut false text.toList).flatMap (characters shown))

/-- A text has placeholders of the given numbers and is filled to the given result, whatever
follows that does not begin with a digit. -/
def Fills (shown : Nat → String) (text : String) (numbers : List Nat) (result : String) : Prop :=
  ∃ pieces : List Piece, pieces.filterMap number? = numbers ∧
    pieces.flatMap (characters shown) = result.toList ∧
    ∀ ⦃rest : List Char⦄, Unopened Char.isDigit rest →
      cut false (text.toList ++ rest) = pieces ++ cut false rest

namespace Fills

variable {shown : Nat → String} {text more result other : String} {numbers others : List Nat}

/-- A text that is filled has its placeholders in order, and is shown with each of them replaced. -/
theorem cut_eq (fills : Fills shown text numbers result) :
    (cut false text.toList).filterMap number? = numbers ∧
      (cut false text.toList).flatMap (characters shown) = result.toList := by
  obtain ⟨pieces, numbered, written, cuts⟩ := fills
  have whole := cuts (unopened_nil _)
  rw [List.append_nil, cut_nil, List.append_nil] at whole
  rw [whole]
  exact ⟨numbered, written⟩

/-- The placeholders of a text that is filled are those that it is filled at. -/
theorem placeholders_eq (fills : Fills shown text numbers result) : placeholders text = numbers :=
  fills.cut_eq.1

/-- A text is filled in one way. -/
theorem filled_eq (fills : Fills shown text numbers result) : filled shown text = result := by
  rw [filled, fills.cut_eq.2, String.ofList_toList]

theorem empty : Fills shown "" [] "" := ⟨[], rfl, rfl, fun _ _ => rfl⟩

/-- One text after another, where the second does not go on with a digit. -/
theorem append (first : Fills shown text numbers result)
    (parted : Unopened Char.isDigit more.toList) (second : Fills shown more others other) :
    Fills shown (text ++ more) (numbers ++ others) (result ++ other) := by
  obtain ⟨pieces, numbered, written, cuts⟩ := first
  obtain ⟨further, numberedFurther, writtenFurther, cutsFurther⟩ := second
  refine ⟨pieces ++ further, ?_, ?_, ?_⟩
  · rw [List.filterMap_append, numbered, numberedFurther]
  · rw [List.flatMap_append, written, writtenFurther, String.toList_append]
  · intro rest follows
    rw [String.toList_append, List.append_assoc, cuts (parted.append follows), cutsFurther follows,
      List.append_assoc]

/-- Whatever is behind a text, its beginning is that of the text. -/
theorem unopened_behind {lead : String} {c : Char} (begins : lead.toList.head? = some c)
    (noDigit : c.isDigit = false) (more : String) :
    Unopened Char.isDigit (lead ++ more).toList := by
  intro d mem
  rw [String.toList_append, List.head?_append, begins] at mem
  cases mem
  exact noDigit

/-- Behind a text without a double quote or a colon, that needs no end. -/
theorem behind (fills : Fills shown text numbers result) (lead : String)
    (bare : lead.toList.all isBare = true) :
    Fills shown (lead ++ text) numbers (lead ++ result) := by
  obtain ⟨pieces, numbered, written, cuts⟩ := fills
  have apart : ∀ c ∈ lead.toList, c ≠ '"' ∧ (false = false → c ≠ ':') := by
    intro c mem
    have isBare := List.all_eq_true.1 bare c mem
    exact ⟨ne_of_class isBare rfl, fun _ => ne_of_class isBare rfl⟩
  refine ⟨lead.toList.map .character ++ pieces, ?_, ?_, ?_⟩
  · rw [List.filterMap_append, filterMap_character, numbered, List.nil_append]
  · rw [List.flatMap_append, flatMap_character, written, String.toList_append]
  · intro rest follows
    rw [String.toList_append, List.append_assoc, cut_append apart, cuts follows,
      List.append_assoc]

/-- A text without colons and quotes has no placeholder. -/
theorem bare (text : String) (bare : text.toList.all isBare = true) :
    Fills shown text [] text := by
  have whole : Fills shown (text ++ "") [] (text ++ "") := empty.behind text bare
  rw [String.append_empty] at whole
  exact whole

/-- A name has no placeholder, whatever colons there are in it. -/
theorem name {name : String} (plain : '"' ∉ name.toList) :
    Fills shown (Quoted.identifier name) [] (Quoted.identifier name) := by
  have characters : (Quoted.identifier name).toList = '"' :: (name.toList ++ ['"']) := by
    simp [Quoted.identifier]
  refine ⟨(Quoted.identifier name).toList.map .character, filterMap_character _,
    flatMap_character _ _, ?_⟩
  intro rest _
  have inside : ∀ c ∈ name.toList, c ≠ '"' ∧ (true = false → c ≠ ':') := by
    intro c mem
    exact ⟨fun same => plain (same ▸ mem), fun outside => absurd outside (by decide)⟩
  rw [characters, List.cons_append, cut_quote, List.append_assoc, List.singleton_append,
    Bool.not_false, cut_append inside, cut_quote, Bool.not_true]
  simp

/-- A placeholder is filled with what is shown for its number. -/
theorem placeholder (number : Nat) :
    Fills shown (Insert.placeholder number) [number] (shown number) := by
  have characters : (Insert.placeholder number).toList = ':' :: number.repr.toList := by
    simp [Insert.placeholder]
  refine ⟨[.placeholder number], rfl, List.append_nil _, ?_⟩
  intro rest follows
  rw [characters, List.cons_append, cut_placeholder follows]
  rfl

/-- Items with a comma and a space between them. -/
theorem joined {α : Type} {write fill : α → String} {numbers : α → List Nat} {items : List α}
    (each : ∀ item ∈ items, Fills shown (write item) (numbers item) (fill item)) :
    Fills shown (", ".intercalate (items.map write)) (items.flatMap numbers)
      (", ".intercalate (items.map fill)) := by
  induction items with
  | nil => exact empty
  | cons item rest ih =>
    obtain ⟨head, tail⟩ := List.forall_mem_cons.1 each
    cases rest with
    | nil =>
      rw [List.map_singleton, List.map_singleton, List.flatMap_singleton,
        String.intercalate_singleton, String.intercalate_singleton]
      exact head
    | cons next rest =>
      rw [List.map_cons, List.map_cons, List.map_cons, List.map_cons,
        String.intercalate_cons_cons, String.intercalate_cons_cons, String.append_assoc,
        String.append_assoc, List.flatMap_cons]
      exact head.append (unopened_behind rfl rfl _) ((ih tail).behind ", " (by decide))

/-- Items between parentheses. -/
theorem group {α : Type} {write fill : α → String} {numbers : α → List Nat} {items : List α}
    (each : ∀ item ∈ items, Fills shown (write item) (numbers item) (fill item)) :
    Fills shown (Insert.group (items.map write)) (items.flatMap numbers)
      (Insert.group (items.map fill)) := by
  have closed := (joined each).append (unopened_cons.2 rfl) (bare ")" (by decide))
  rw [List.append_nil] at closed
  rw [Insert.group, Insert.group, String.append_assoc, String.append_assoc]
  exact closed.behind "(" (by decide)

end Fills

end WarehouseSchema.Statement
