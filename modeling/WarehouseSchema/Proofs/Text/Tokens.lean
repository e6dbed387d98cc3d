import WarehouseSchema.Json.Compact
import WarehouseSchema.Proofs.Json.Numeral
import WarehouseSchema.Proofs.Text.Legible

/-!
# Tokens of a statement

A statement is cut into names between double quotes, strings between single quotes, the marks that
structure it, and words, which are whatever else stands between spaces, marks and quotes. A string
goes on over a doubled quote, which stands for one, and ends at the first quote that no other
follows. `Token.scan` answers nothing where a quote is not closed.

## What is proved

`Token.Reads` says that a text is read as given tokens, whatever stands after it, as long as that
begins at a border. Names without a double quote, string literals of any content and words are read
as one token each. Texts behind each other, and lists between parentheses, are read as the tokens
of their parts.
-/

set_option autoImplicit false

namespace WarehouseSchema.Statement

open Text

/-- A token of a statement. -/
inductive Token where
  /-- What stands between double quotes. -/
  | name (text : String)
  /-- What a string between single quotes stands for. -/
  | literal (text : String)
  /-- A comma, a parenthesis or a semicolon. -/
  | mark (c : Char)
  | word (text : String)
  deriving DecidableEq, Repr

namespace Token

/-- Whether a character is a token by itself. -/
def isMark (c : Char) : Bool := c == ',' || c == '(' || c == ')' || c == ';'

/-- Whether a word ends before a character. -/
def isBorder (c : Char) : Bool := c == ' ' || isMark c

/-- Whether a character may stand in a word. -/
def isBare (c : Char) : Bool := !isBorder c && c != '"' && c != '\''

/-- The token at the beginning of a text that begins with no space, and what follows it. -/
def first? (text : List Char) : Option (Token × List Char) :=
  match text with
  | [] => none
  | c :: rest =>
    if c = '"' then
      match rest.dropWhile (· != '"') with
      | [] => none
      | _ :: after => some (.name (String.ofList (rest.takeWhile (· != '"'))), after)
    else if c = '\'' then
      (literalRest? rest).map fun (content, after) => (.literal (String.ofList content), after)
    else if isMark c then some (.mark c, rest)
    else some (.word (String.ofList (c :: rest.takeWhile isBare)), rest.dropWhile isBare)

/-- What follows a literal is shorter than the literal with it. -/
theorem length_of_literalRest? {text content after : List Char}
    (read : literalRest? text = some (content, after)) : after.length < text.length := by
  obtain ⟨rfl, -⟩ := literalRest?_eq_some.1 read
  rw [List.length_append, List.length_cons]
  omega

/-- What follows a token is shorter than what began with it. -/
theorem length_of_first? {text after : List Char} {token : Token}
    (read : first? text = some (token, after)) : after.length < text.length := by
  cases text with
  | nil => cases read
  | cons c rest =>
    have shorter (p : Char → Bool) : (rest.dropWhile p).length ≤ rest.length :=
      (List.dropWhile_sublist _).length_le
    unfold first? at read
    dsimp only at read
    split at read
    · have closing := shorter (· != '"')
      split at read
      · cases read
      · rename_i quote more closed
        cases read
        rw [closed] at closing
        exact Nat.lt_succ_of_lt closing
    · split at read
      · obtain ⟨⟨content, more⟩, inner, same⟩ := Option.map_eq_some_iff.1 read
        cases same
        exact Nat.lt_succ_of_lt (length_of_literalRest? inner)
      · split at read
        · cases read
          exact Nat.lt_succ_self _
        · cases read
          exact Nat.lt_succ_of_le (shorter isBare)

/-- The tokens of a text. -/
def scan (text : List Char) : Option (List Token) :=
  match text with
  | [] => some []
  | c :: rest =>
    if c = ' ' then scan rest
    else
      match _read : first? (c :: rest) with
      | none => none
      | some (token, after) => (scan after).map (token :: ·)
termination_by text.length
decreasing_by
  · exact Nat.lt_succ_self _
  · exact length_of_first? ‹_›

theorem scan_nil : scan [] = some [] := by rw [scan]

theorem scan_space (rest : List Char) : scan (' ' :: rest) = scan rest := by
  rw [scan, if_pos rfl]

/-- The tokens of a text are the first one and those of what follows it. -/
theorem scan_of_first? {c : Char} {rest after : List Char} {token : Token} (noSpace : c ≠ ' ')
    (read : first? (c :: rest) = some (token, after)) :
    scan (c :: rest) = (scan after).map (token :: ·) := by
  rw [scan, if_neg noSpace]
  split
  · rename_i none
    cases none.symm.trans read
  · rename_i found
    cases found.symm.trans read
    rfl

/-! ## Texts that are read as tokens -/

/-- What may follow a word: nothing, or a text that begins with a space or a mark. -/
def Parted (rest : List Char) : Prop := Unopened (fun c => !isBorder c) rest

/-- A text that begins with a border may follow a word. -/
theorem parted_cons {c : Char} (border : isBorder c = true) (rest : List Char) :
    Parted (c :: rest) := by
  refine unopened_cons.2 ?_
  rw [border]
  rfl

/-- What follows a word does not begin with a character of a class that has no border in it. -/
theorem Parted.unopened {p : Char → Bool} {rest : List Char} (parted : Parted rest)
    (others : ∀ c, isBorder c = true → p c = false) : Unopened p rest := by
  intro c mem
  have border := parted c mem
  rw [Bool.not_eq_false'] at border
  exact others c border

/-- Every mark ends the word before it. -/
theorem isBorder_of_isMark {c : Char} (mark : isMark c = true) : isBorder c = true := by
  rw [isBorder, mark, Bool.or_true]

/-- A text is read as tokens, whatever follows it behind a border. -/
def Reads (text : List Char) (tokens : List Token) : Prop :=
  ∀ ⦃rest : List Char⦄, Parted rest → scan (text ++ rest) = (scan rest).map (tokens ++ ·)

/-- The tokens of a list between parentheses. -/
def group (items : List (List Token)) : List Token :=
  .mark '(' :: ([.mark ','].intercalate items ++ [.mark ')'])

namespace Reads

variable {text more : List Char} {tokens others : List Token}

/-- A text that is read as tokens has just these. -/
theorem scan_eq (reads : Reads text tokens) : scan text = some tokens := by
  have whole := reads (unopened_nil _)
  rw [List.append_nil, scan_nil, Option.map_some, List.append_nil] at whole
  exact whole

theorem nil : Reads [] [] := by
  intro rest _
  exact (congrFun Option.map_id (scan rest)).symm

/-- One text after another is read as the tokens of both, where the second begins with a border. -/
theorem append (first : Reads text tokens) (parted : Parted more) (second : Reads more others) :
    Reads (text ++ more) (tokens ++ others) := by
  intro rest follows
  rw [List.append_assoc, first (parted.append follows), second follows, Option.map_map]
  congr 1
  funext later
  exact (List.append_assoc tokens others later).symm

/-- A space before a text is no token. -/
theorem space (reads : Reads text tokens) : Reads (' ' :: text) tokens := by
  intro rest follows
  rw [List.cons_append, scan_space, reads follows]

/-- One text after another and a space. -/
theorem spaced (first : Reads text tokens) (second : Reads more others) :
    Reads (text ++ ' ' :: more) (tokens ++ others) :=
  first.append (parted_cons rfl _) second.space

/-- A mark needs no border. -/
theorem mark {c : Char} (mark : isMark c = true) (reads : Reads text tokens) :
    Reads (c :: text) (.mark c :: tokens) := by
  intro rest follows
  have quote : c ≠ '"' := ne_of_class mark rfl
  have single : c ≠ '\'' := ne_of_class mark rfl
  have read : first? (c :: (text ++ rest)) = some (.mark c, text ++ rest) := by
    rw [first?, if_neg quote, if_neg single, if_pos mark]
  rw [List.cons_append, scan_of_first? (ne_of_class mark rfl) read, reads follows, Option.map_map]
  rfl

/-- A text is one token if its first token leaves nothing of it, whatever follows behind a
border. -/
theorem of_first? {c : Char} {token : Token} (noSpace : c ≠ ' ')
    (read : ∀ rest, Parted rest → first? (c :: (text ++ rest)) = some (token, rest)) :
    Reads (c :: text) [token] := by
  intro rest follows
  rw [List.cons_append, scan_of_first? noSpace (read rest follows)]
  rfl

/-! ### Single tokens -/

/-- A name without a double quote is one token. -/
theorem name {name : String} (plain : '"' ∉ name.toList) :
    Reads (Quoted.identifier name).toList [.name name] := by
  have inside : ∀ c ∈ name.toList, (c != '"') = true := by
    intro c mem
    exact bne_iff_ne.2 fun same => plain (same ▸ mem)
  have text : (Quoted.identifier name).toList = '"' :: (name.toList ++ ['"']) := by
    simp [Quoted.identifier]
  rw [text]
  refine of_first? (by decide) fun rest _ => ?_
  have closing : Unopened (· != '"') ('"' :: rest) := unopened_cons.2 rfl
  rw [List.append_assoc, List.singleton_append, first?, if_pos rfl,
    dropWhile_append_of_unopened inside closing, takeWhile_append_of_unopened inside closing,
    String.ofList_toList]

/-- No content of a literal ends it. -/
theorem literal (content : String) : Reads (Quoted.literal content).toList [.literal content] := by
  rw [Quoted.toList_literal, List.cons_append]
  refine of_first? (by decide) fun rest follows => ?_
  have ends : Unopened (· == '\'') rest := by
    refine follows.unopened fun c border => beq_eq_false_iff_ne.2 ?_
    rintro rfl
    cases border
  rw [List.append_assoc, List.singleton_append, first?, if_neg (by decide), if_pos rfl,
    literalRest?_doubled ends, Option.map_some]
  dsimp only
  rw [String.ofList_toList]

/-- A word is one token, as long as it has a character and none of them ends it. -/
theorem word {word : String} (nonempty : word.toList ≠ [])
    (bare : word.toList.all isBare = true) : Reads word.toList [.word word] := by
  obtain ⟨c, text, characters⟩ := List.exists_cons_of_ne_nil nonempty
  rw [characters] at bare
  obtain ⟨bareHead, bareRest⟩ := List.forall_mem_cons.1 (List.all_eq_true.1 bare)
  have noMark : ¬ isMark c = true := by
    intro mark
    rw [isBare, isBorder_of_isMark mark] at bareHead
    cases bareHead
  have quote : c ≠ '"' := ne_of_class bareHead rfl
  have single : c ≠ '\'' := ne_of_class bareHead rfl
  have whole : word = String.ofList (c :: text) := by rw [← characters, String.ofList_toList]
  rw [characters, whole]
  refine of_first? (ne_of_class bareHead rfl) fun rest follows => ?_
  have ends : Unopened isBare rest := by
    refine follows.unopened fun d border => ?_
    rw [isBare, border]
    rfl
  rw [first?, if_neg quote, if_neg single, if_neg noMark,
    takeWhile_append_of_unopened bareRest ends, dropWhile_append_of_unopened bareRest ends]

/-- A text of characters of a number is one word. -/
theorem numeric {text : String} (nonempty : text.toList ≠ [])
    (numeric : JsonText.Numeric text.toList) : Reads text.toList [.word text] := by
  refine .word nonempty (List.all_eq_true.2 fun c mem => ?_)
  have apart (d : Char) (other : JsonText.isNumeric d = false) : c ≠ d :=
    Text.ne_of_class (numeric c mem) other
  simp [isBare, isBorder, isMark, apart ' ' rfl, apart ',' rfl, apart '(' rfl, apart ')' rfl,
    apart ';' rfl, apart '"' rfl, apart '\'' rfl]

/-- A number is one word, whichever way it is written. -/
theorem number (n : JsonNumber) :
    Reads (Json.number n).compact.toList [.word (Json.number n).compact] := by
  have characters : (Json.number n).compact.toList = JsonText.number n := String.toList_ofList
  apply numeric
  · rw [characters]
    exact JsonText.number_ne_nil n
  · rw [characters]
    exact .number n

/-! ### Lists -/

/-- Items with a comma and a space between them are read with a comma between their tokens. -/
theorem joined {α : Type} {write : α → String} {tokens : α → List Token} {items : List α}
    (each : ∀ item ∈ items, Reads (write item).toList (tokens item)) :
    Reads (", ".intercalate (items.map write)).toList
      ([.mark ','].intercalate (items.map tokens)) := by
  rw [String.toList_intercalate, List.map_map]
  induction items with
  | nil => exact nil
  | cons item rest ih =>
    obtain ⟨head, tail⟩ := List.forall_mem_cons.1 each
    cases rest with
    | nil =>
      rw [List.map_singleton, List.map_singleton, List.intercalate_singleton,
        List.intercalate_singleton]
      exact head
    | cons next rest =>
      rw [List.map_cons, List.map_cons, List.map_cons, List.map_cons, List.intercalate_cons_cons,
        List.intercalate_cons_cons, List.append_assoc, List.append_assoc]
      exact head.append (parted_cons rfl _) ((ih tail).space.mark rfl)

/-- A list between parentheses. -/
theorem group {α : Type} {write : α → String} {tokens : α → List Token} {items : List α}
    (each : ∀ item ∈ items, Reads (write item).toList (tokens item)) :
    Reads ('(' :: ((", ".intercalate (items.map write)).toList ++ [')']))
      (Token.group (items.map tokens)) :=
  mark rfl ((joined each).append (parted_cons rfl _) (mark rfl nil))

end Reads

end Token

end WarehouseSchema.Statement
