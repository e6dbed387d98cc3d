import Mathlib.Data.List.Basic
import WarehouseSchema.Proofs.Text.Numeral
import WarehouseSchema.Quoted

/-!
# Texts in which what was written can be told

Values are written one after another, without a mark of where one ends. They can be told where no
two of them begin the same text in two ways.

## What is proved

`Legible` says that of a way to write values, for those texts that may follow it. Runs of characters
of a class, whole numbers, quoted names and string literals are legible, and legible pieces make
legible ones: behind a fixed text, where they may be absent, and in a list with commas between its
items.

A text that follows is known by its beginning, which `Unopened` speaks of. It is never read, so that
any text may stand inside a literal.
-/

set_option autoImplicit false

namespace WarehouseSchema.Text

/-- A text does not begin with a character of the class. -/
def Unopened (p : Char → Bool) (text : List Char) : Prop :=
  ∀ c ∈ text.head?, p c = false

/-- The empty text begins with no character. -/
theorem unopened_nil (p : Char → Bool) : Unopened p [] := by
  intro c mem
  cases mem

/-- A text begins with its first character. -/
theorem unopened_cons {p : Char → Bool} {c : Char} {rest : List Char} :
    Unopened p (c :: rest) ↔ p c = false := by
  constructor
  · intro unopened
    exact unopened c rfl
  · rintro other d ⟨⟩
    exact other

/-- The beginning of a text is that of its first part, or of the second where the first is empty. -/
theorem Unopened.append {p : Char → Bool} {text rest : List Char} (first : Unopened p text)
    (second : Unopened p rest) : Unopened p (text ++ rest) := by
  cases text with
  | nil => exact second
  | cons c more => exact unopened_cons.2 (unopened_cons.1 first)

/-- A run of characters of a class ends where another character stands. -/
theorem takeWhile_append_of_unopened {p : Char → Bool} {text rest : List Char}
    (all : ∀ c ∈ text, p c = true) (ends : Unopened p rest) :
    (text ++ rest).takeWhile p = text := by
  rw [List.takeWhile_append_of_pos all]
  cases rest with
  | nil => exact List.append_nil text
  | cons c more =>
    rw [List.takeWhile_cons_of_neg (by rw [unopened_cons.1 ends]; exact Bool.false_ne_true)]
    exact List.append_nil text

/-- What follows a run of characters of a class is left over. -/
theorem dropWhile_append_of_unopened {p : Char → Bool} {text rest : List Char}
    (all : ∀ c ∈ text, p c = true) (ends : Unopened p rest) :
    (text ++ rest).dropWhile p = rest := by
  rw [List.dropWhile_append_of_pos all]
  cases rest with
  | nil => rfl
  | cons c more =>
    rw [List.dropWhile_cons_of_neg (by rw [unopened_cons.1 ends]; exact Bool.false_ne_true)]

/-- A text that does not begin with a character does not begin with a lead that does. -/
theorem not_prefix_of_unopened {c : Char} {text : List Char} (unopened : Unopened (· == c) text)
    (lead : List Char) : ¬ c :: lead <+: text := by
  rintro ⟨rest, rfl⟩
  simpa using unopened_cons.1 unopened

/-- Texts with different first characters do not begin one with the other. -/
theorem not_prefix_of_head {c d : Char} (other : c ≠ d) (lead rest : List Char) :
    ¬ c :: lead <+: d :: rest := by
  intro begins
  exact other (List.cons_prefix_cons.1 begins).1

/-- Neither do texts with different second characters. -/
theorem not_prefix_of_second {c d : Char} (other : c ≠ d) (first : Char) (lead rest : List Char) :
    ¬ first :: c :: lead <+: first :: d :: rest := by
  intro begins
  exact not_prefix_of_head other lead rest (List.cons_prefix_cons.1 begins).2

/-- Where two valid values are written before texts that may follow, the whole tells the values and
the texts. -/
def Legible {α : Type} (valid : α → Prop) (write : α → List Char) (follows : List Char → Prop) :
    Prop :=
  ∀ ⦃a b : α⦄ ⦃r s : List Char⦄, valid a → valid b → follows r → follows s →
    write a ++ r = write b ++ s → a = b ∧ r = s

/-- The text of a piece that may be absent. -/
def ifSome {α : Type} (write : α → List Char) (item : Option α) : List Char := item.elim [] write

/-- A piece that may be absent begins as the piece does. -/
theorem unopened_ifSome {α : Type} {p : Char → Bool} {write : α → List Char}
    (each : ∀ a, Unopened p (write a)) (item : Option α) : Unopened p (ifSome write item) := by
  cases item with
  | none => exact unopened_nil p
  | some a => exact each a

/-- The beginning of a text after an item of a list: a comma, or the end of the list. -/
def Closed (text : List Char) : Prop := ∃ c rest, text = c :: rest ∧ (c = ',' ∨ c = ')')

namespace Legible

variable {α β : Type} {valid : α → Prop} {write : α → List Char} {follows : List Char → Prop}

/-! ## Pieces made of pieces -/

/-- Less may follow. -/
theorem of_follows {fewer : List Char → Prop} (legible : Legible valid write follows)
    (implies : ∀ r, fewer r → follows r) : Legible valid write fewer := by
  intro a b r s va vb fr fs same
  exact legible va vb (implies r fr) (implies s fs) same

/-- Fewer values are valid. -/
theorem of_valid {fewer : α → Prop} (legible : Legible valid write follows)
    (implies : ∀ a, fewer a → valid a) : Legible fewer write follows := by
  intro a b r s va vb fr fs same
  exact legible (implies a va) (implies b vb) fr fs same

/-- To be legible is a matter of the texts of valid values. -/
theorem congr {other : α → List Char} (legible : Legible valid write follows)
    (texts : ∀ a, valid a → other a = write a) : Legible valid other follows := by
  intro a b r s va vb fr fs same
  rw [texts a va, texts b vb] at same
  exact legible va vb fr fs same

/-- Other values are legible where they are told by the values that stand for them. -/
theorem comap (legible : Legible valid write follows) {accepted : β → Prop} {f : β → α}
    (maps : ∀ b, accepted b → valid (f b))
    (inj : ∀ a b, accepted a → accepted b → f a = f b → a = b) :
    Legible accepted (fun b => write (f b)) follows := by
  intro a b r s va vb fr fs same
  obtain ⟨values, rest⟩ := legible (maps a va) (maps b vb) fr fs same
  exact ⟨inj a b va vb values, rest⟩

/-- One piece is written after another. -/
theorem pair {other : β → Prop} {next : β → List Char} {ends : List Char → Prop}
    (legible : Legible valid write follows) (second : Legible other next ends)
    (border : ∀ b r, other b → ends r → follows (next b ++ r)) :
    Legible (fun both : α × β => valid both.1 ∧ other both.2)
      (fun both => write both.1 ++ next both.2) ends := by
  rintro ⟨a, b⟩ ⟨a', b'⟩ r s ⟨va, vb⟩ ⟨va', vb'⟩ fr fs same
  rw [List.append_assoc, List.append_assoc] at same
  obtain ⟨rfl, tails⟩ := legible va va' (border b r vb fr) (border b' s vb' fs) same
  obtain ⟨rfl, rest⟩ := second vb vb' fr fs tails
  exact ⟨rfl, rest⟩

/-- Values behind a fixed text are told as they are without it. -/
theorem behind (legible : Legible valid write follows) (lead : List Char) :
    Legible valid (fun a => lead ++ write a) follows := by
  intro a b r s va vb fr fs same
  rw [List.append_assoc, List.append_assoc] at same
  exact legible va vb fr fs (List.append_cancel_left same)

/-- A fixed text after a piece may be followed by what it lets follow. -/
theorem before {closed : List Char → Prop} (legible : Legible valid write follows)
    (tail : List Char) (border : ∀ r, closed r → follows (tail ++ r)) :
    Legible valid (fun a => write a ++ tail) closed := by
  intro a b r s va vb fr fs same
  rw [List.append_assoc, List.append_assoc] at same
  obtain ⟨rfl, rest⟩ := legible va vb (border r fr) (border s fs) same
  exact ⟨rfl, List.append_cancel_left rest⟩

/-- A piece may be absent where nothing that begins as it does may follow. -/
theorem optional (legible : Legible valid write follows) (lead : List Char) :
    Legible (fun item => ∀ a ∈ item, valid a) (ifSome fun a => lead ++ write a)
      (fun r => follows r ∧ ¬ lead <+: r) := by
  intro a b r s va vb fr fs same
  cases a with
  | none =>
    cases b with
    | none => exact ⟨rfl, same⟩
    | some value =>
      refine absurd ?_ fr.2
      rw [show r = lead ++ write value ++ s from same, List.append_assoc]
      exact List.prefix_append lead _
  | some value =>
    cases b with
    | none =>
      refine absurd ?_ fs.2
      rw [show s = lead ++ write value ++ r from same.symm, List.append_assoc]
      exact List.prefix_append lead _
    | some other =>
      obtain ⟨rfl, rest⟩ := legible.behind lead (va value rfl) (vb other rfl) fr.1 fs.1 same
      exact ⟨rfl, rest⟩

/-- A piece behind a fixed text can be told from none, where what follows does not begin with that
text. -/
theorem optional_total (legible : Legible (fun _ : α => True) write follows) (lead : List Char) :
    Legible (fun _ => True) (ifSome fun a => lead ++ write a)
      (fun r => follows r ∧ ¬ lead <+: r) :=
  (legible.optional lead).of_valid fun _ _ _ _ => trivial

/-- What stands after the first of the items of a list. -/
def afterFirst (write : α → List Char) (others : List α) (rest : List Char) : List Char :=
  match others with
  | [] => rest
  | _ :: _ => ',' :: ' ' :: ([',', ' '].intercalate (others.map write) ++ rest)

/-- A list is its first item and the other items, each behind a comma. -/
theorem intercalate_cons_append (write : α → List Char) (item : α) (others : List α)
    (rest : List Char) :
    [',', ' '].intercalate ((item :: others).map write) ++ rest =
      write item ++ afterFirst write others rest := by
  cases others with
  | nil => rw [List.map_singleton, List.intercalate_singleton, afterFirst]
  | cons other others =>
    rw [List.map_cons, List.map_cons, List.intercalate_cons_cons, List.append_assoc,
      List.append_assoc]
    rfl

/-- After an item of a list comes a comma or the end of the list. -/
theorem closed_afterFirst (write : α → List Char) (others : List α) (rest : List Char) :
    Closed (afterFirst write others (')' :: rest)) := by
  cases others with
  | nil => exact ⟨')', rest, rfl, .inr rfl⟩
  | cons other others => exact ⟨',', _, rfl, .inl rfl⟩

/-- The items of a list are told by what follows each: a comma, or the end of the list. The
induction is on the first list, and the second is taken apart along with it. -/
theorem joined (legible : Legible valid write Closed)
    (opened : ∀ a, valid a → ∃ c rest, write a = c :: rest ∧ c ≠ ')') :
    Legible (fun items : List α => ∀ a ∈ items, valid a)
      (fun items => [',', ' '].intercalate (items.map write))
      (fun r => ∃ rest, r = ')' :: rest) := by
  -- No item begins as the list ends: an empty list is told from one with an item.
  have unended (a : α) (va : valid a) (r s : List Char) : write a ++ r ≠ ')' :: s := by
    obtain ⟨c, rest, text, other⟩ := opened a va
    rw [text]
    intro same
    exact other (List.cons_eq_cons.1 same).1
  intro items
  induction items with
  | nil =>
    rintro (_ | ⟨other, others⟩) r s - vb ⟨r, rfl⟩ ⟨s, rfl⟩ same
    · exact ⟨rfl, same⟩
    · rw [intercalate_cons_append] at same
      exact absurd same.symm (unended other (vb other List.mem_cons_self) _ _)
  | cons item rest ih =>
    rintro (_ | ⟨other, others⟩) r s va vb ⟨r, rfl⟩ ⟨s, rfl⟩ same
    · rw [intercalate_cons_append] at same
      exact absurd same (unended item (va item List.mem_cons_self) _ _)
    · rw [intercalate_cons_append, intercalate_cons_append] at same
      obtain ⟨vitem, vrest⟩ := List.forall_mem_cons.1 va
      obtain ⟨vother, vothers⟩ := List.forall_mem_cons.1 vb
      obtain ⟨rfl, tails⟩ := legible vitem vother (closed_afterFirst write rest r)
        (closed_afterFirst write others s) same
      cases rest with
      | nil =>
        cases others with
        | nil => exact ⟨rfl, tails⟩
        -- After the common item one text has a comma where the other ends.
        | cons next others => exact absurd (List.cons_eq_cons.1 tails).1 (by decide)
      | cons first rest =>
        cases others with
        | nil => exact absurd (List.cons_eq_cons.1 tails).1 (by decide)
        | cons next others =>
          have rests := (List.cons_eq_cons.1 (List.cons_eq_cons.1 tails).2).2
          obtain ⟨more, ends⟩ := ih vrest vothers ⟨r, rfl⟩ ⟨s, rfl⟩ rests
          exact ⟨congrArg (item :: ·) more, ends⟩

end Legible

/-! ## Runs, numbers, names and literals -/

/-- A run of characters of a class ends before a character outside it. -/
theorem legible_run (p : Char → Bool) :
    Legible (fun text : List Char => ∀ c ∈ text, p c = true) (fun text => text) (Unopened p) := by
  intro a b r s va vb fr fs same
  have texts : a = b := by
    rw [← takeWhile_append_of_unopened va fr, ← takeWhile_append_of_unopened vb fs, same]
  subst texts
  exact ⟨rfl, List.append_cancel_left same⟩

/-- A natural number ends before a character that is no digit. -/
theorem legible_repr :
    Legible (fun _ => True) (fun n : Nat => n.repr.toList) (Unopened Char.isDigit) := by
  apply (legible_run Char.isDigit).comap
  · intro n _ c mem
    exact isDigit_of_mem_repr mem
  · intro n m _ _ same
    have read := readDigits?_repr n
    rw [show n.repr.toList = m.repr.toList from same, readDigits?_repr] at read
    exact (Option.some.inj read).symm

/-- A whole number ends before a character that is neither a digit nor a minus sign. -/
theorem legible_integerText :
    Legible (fun _ => True) (fun n : Int64 => (integerText n.toInt).toList)
      (Unopened fun c => c == '-' || c.isDigit) := by
  apply (legible_run fun c => c == '-' || c.isDigit).comap
  · intro n _ c mem
    rcases Int.lt_or_le n.toInt 0 with negative | nonneg
    · rw [toList_integerText_of_neg negative] at mem
      rcases List.mem_cons.1 mem with rfl | mem
      · rfl
      · rw [isDigit_of_mem_repr mem, Bool.or_true]
    · rw [toList_integerText_of_nonneg nonneg] at mem
      rw [isDigit_of_mem_repr mem, Bool.or_true]
  · intro n m _ _ same
    have read := readInt64?_integerText n
    rw [show (integerText n.toInt).toList = (integerText m.toInt).toList from same,
      readInt64?_integerText] at read
    exact (Option.some.inj read).symm

/-- A name in quotes ends at the first quote. -/
theorem legible_identifier :
    Legible (fun name : String => '"' ∉ name.toList) (fun name => (Quoted.identifier name).toList)
      (fun _ => True) := by
  have run : Legible (fun name : String => '"' ∉ name.toList) String.toList
      (Unopened fun c => c != '"') := by
    apply (legible_run fun c => c != '"').comap
    · intro name plain c mem
      have other : c ≠ '"' := fun same => plain (same ▸ mem)
      simpa using other
    · exact fun _ _ _ _ => String.toList_inj.1
  have text (name : String) :
      (Quoted.identifier name).toList = ['"'] ++ (name.toList ++ ['"']) := by
    simp [Quoted.identifier]
  simp only [text]
  exact (run.before ['"'] fun _ _ => unopened_cons.2 rfl).behind ['"']

/-- Reads a literal after its opening quote: its text, and what stands after its closing quote. -/
def literalRest? : List Char → Option (List Char × List Char)
  | [] => none
  | c :: rest =>
    if c = '\'' then
      match rest with
      | [] => some ([], [])
      | d :: more =>
        if d = '\'' then (literalRest? more).map fun found => ('\'' :: found.1, found.2)
        else some ([], rest)
    else (literalRest? rest).map fun found => (c :: found.1, found.2)

/-- A character that is no quote is part of the literal. -/
theorem literalRest?_of_ne {c : Char} (other : c ≠ '\'') (rest : List Char) :
    literalRest? (c :: rest) = (literalRest? rest).map fun found => (c :: found.1, found.2) := by
  cases rest with
  | nil => simp only [literalRest?, if_neg other]
  | cons d more => simp only [literalRest?, if_neg other]

/-- The closing quote of a literal is the first that no other quote follows. -/
theorem literalRest?_doubled {r : List Char} (follows : Unopened (· == '\'') r)
    (text : List Char) : literalRest? (Quoted.doubled text ++ '\'' :: r) = some (text, r) := by
  induction text with
  | nil =>
    cases r with
    | nil => rfl
    | cons d more =>
      have other : d ≠ '\'' := by simpa using unopened_cons.1 follows
      simp [Quoted.doubled, literalRest?, other]
  | cons c rest ih =>
    by_cases quote : c = '\''
    · simp [Quoted.doubled, literalRest?, quote, ih]
    · simp [Quoted.doubled, literalRest?_of_ne, quote, ih]

/-- A text is read as a literal after its opening quote exactly where the content stands in it with
its quotes doubled, up to a quote that no other quote follows. -/
theorem literalRest?_eq_some {text content rest : List Char} :
    literalRest? text = some (content, rest) ↔
      text = Quoted.doubled content ++ '\'' :: rest ∧ Unopened (· == '\'') rest := by
  constructor
  · intro read
    induction text using literalRest?.induct generalizing content with
    | case1 => cases read
    | case2 =>
      cases read
      exact ⟨rfl, unopened_nil _⟩
    | case3 more ih =>
      obtain ⟨⟨inside, after⟩, inner, same⟩ := Option.map_eq_some_iff.1 read
      cases same
      obtain ⟨rfl, ends⟩ := ih inner
      exact ⟨rfl, ends⟩
    | case4 d more other =>
      rw [literalRest?, if_pos rfl, if_neg other] at read
      cases read
      exact ⟨rfl, unopened_cons.2 (beq_eq_false_iff_ne.2 other)⟩
    | case5 c more other ih =>
      rw [literalRest?_of_ne other] at read
      obtain ⟨⟨inside, after⟩, inner, same⟩ := Option.map_eq_some_iff.1 read
      cases same
      obtain ⟨rfl, ends⟩ := ih inner
      rw [Quoted.doubled, if_neg other]
      exact ⟨rfl, ends⟩
  · rintro ⟨rfl, ends⟩
    exact literalRest?_doubled ends content

/-- A literal ends before a character that is no quote, whatever its content. -/
theorem legible_literal :
    Legible (fun _ => True) (fun text => (Quoted.literal text).toList) (Unopened (· == '\'')) := by
  have text (content : String) (r : List Char) : (Quoted.literal content).toList ++ r =
      '\'' :: (Quoted.doubled content.toList ++ '\'' :: r) := by
    rw [Quoted.toList_literal, List.cons_append, List.cons_append, List.append_assoc,
      List.singleton_append]
  intro a b r s _ _ fr fs same
  simp only [text] at same
  have read := literalRest?_doubled fr a.toList
  rw [(List.cons_eq_cons.1 same).2, literalRest?_doubled fs] at read
  obtain ⟨texts, rest⟩ := Prod.mk.inj (Option.some.inj read)
  exact ⟨(String.toList_inj.1 texts).symm, rest.symm⟩

/-- A literal behind the words that announce it, where there is one. -/
def announced (words : String) : Option String → List Char :=
  ifSome fun text => words.toList ++ (Quoted.literal text).toList

/-- A literal behind its words can be told from none, where what follows does not begin with those
words. -/
theorem legible_announced (words : String) :
    Legible (fun _ => True) (announced words)
      (fun r => Unopened (· == '\'') r ∧ ¬ words.toList <+: r) :=
  legible_literal.optional_total words.toList

end WarehouseSchema.Text
