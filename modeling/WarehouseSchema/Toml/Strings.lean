import WarehouseSchema.Toml.Basic

/-!
# Strings in TOML

A basic string stands between double quotes and knows escapes, a literal string stands between
single quotes and knows none. Three quotes in place of one let a string go over several lines: a
line break directly after the opening quotes does not belong to it, and one or two quotes of its own
may stand directly before the closing ones.
-/

set_option autoImplicit false

namespace WarehouseSchema.Toml

/-- Whether a character may stand for itself in a string of one line: no control but the tab. -/
def isPlain (c : Char) : Bool := c == '\t' || (0x20 ≤ c.toNat && c.toNat != 0x7F)

/-- The value of a hexadecimal digit. -/
def hexDigit? (c : Char) : Option Nat :=
  if '0' ≤ c ∧ c ≤ '9' then some (c.toNat - 0x30)
  else if 'a' ≤ c ∧ c ≤ 'f' then some (c.toNat - 0x61 + 10)
  else if 'A' ≤ c ∧ c ≤ 'F' then some (c.toNat - 0x41 + 10)
  else none

/-- The character of a code point in hexadecimal, if it is one. -/
def ofHex? (digits : List Char) : Option Char :=
  (digits.foldlM (fun n c => (hexDigit? c).map (n * 16 + ·)) 0).bind fun n =>
    if n < 0xD800 ∨ (0xDFFF < n ∧ n < 0x110000) then some (Char.ofNat n) else none

/-- The character that a letter stands for after a backslash. -/
def ofEscape? (letter : Char) : Option Char :=
  if letter = '"' then some '"'
  else if letter = '\\' then some '\\'
  else if letter = 'b' then some '\x08'
  else if letter = 'e' then some '\x1b'
  else if letter = 'f' then some '\x0c'
  else if letter = 'n' then some '\n'
  else if letter = 'r' then some '\r'
  else if letter = 't' then some '\t'
  else none

/-- The escaped character after a backslash, and what follows it. -/
def escape? (text : List Char) : Option (Char × List Char) :=
  match text with
  | 'x' :: a :: b :: rest => (ofHex? [a, b]).map (·, rest)
  | 'u' :: a :: b :: c :: d :: rest => (ofHex? [a, b, c, d]).map (·, rest)
  | 'U' :: a :: b :: c :: d :: e :: f :: g :: h :: rest =>
    (ofHex? [a, b, c, d, e, f, g, h]).map (·, rest)
  | letter :: rest => (ofEscape? letter).map (·, rest)
  | [] => none

theorem length_of_escape? {text after : List Char} {c : Char}
    (h : escape? text = some (c, after)) : after.length < text.length := by
  unfold escape? at h
  split at h
  case h_5 => simp at h
  all_goals
    obtain ⟨_, _, h⟩ := Option.map_eq_some_iff.1 h
    cases h
    simp only [List.length_cons]
    omega

/-- A basic string up to its closing quote, and what follows that. -/
def basic (text : List Char) : Option (List Char × List Char) :=
  match text with
  | [] => none
  | '"' :: rest => some ([], rest)
  | '\\' :: rest =>
    match _h : escape? rest with
    | none => none
    | some (c, after) => (basic after).map fun (cs, after) => (c :: cs, after)
  | c :: rest => if isPlain c then (basic rest).map fun (cs, after) => (c :: cs, after) else none
termination_by text.length
decreasing_by
  · have := length_of_escape? ‹_›
    simp only [List.length_cons]; omega
  · simp

/-- A literal string up to its closing quote, and what follows that. -/
def literal : List Char → Option (List Char × List Char)
  | [] => none
  | c :: rest =>
    if c = '\'' then some ([], rest)
    else if isPlain c then (literal rest).map fun (cs, after) => (c :: cs, after)
    else none

/-- What remains after spaces, tabs and line breaks. -/
def skipSpace : List Char → List Char
  | [] => []
  | c :: rest =>
    if c = ' ' ∨ c = '\t' ∨ c = '\n' then skipSpace rest
    else if c = '\r' ∧ rest.head? = some '\n' then skipSpace rest
    else c :: rest

theorem length_skipSpace (text : List Char) : (skipSpace text).length ≤ text.length := by
  induction text with
  | nil => simp [skipSpace]
  | cons c rest ih =>
    simp only [skipSpace]
    split
    · simp only [List.length_cons]; omega
    · split <;> simp only [List.length_cons] <;> omega

/-- Whether only spaces and tabs stand before the next line break. -/
def endsLine (text : List Char) : Bool :=
  match text.dropWhile fun c => c == ' ' || c == '\t' with
  | '\n' :: _ | '\r' :: '\n' :: _ => true
  | _ => false

/-- The quotes of its own that a string ends with, where at least three stand at the beginning of a
text, and what follows the closing ones. -/
def closing? (quote : Char) (text : List Char) : Option (List Char × List Char) :=
  let count := (text.takeWhile (· == quote)).length
  if count < 3 then none else some (List.replicate (min count 5 - 3) quote, text.drop (min count 5))

/-- A basic string over several lines up to its closing quotes, and what follows them. A backslash
at the end of a line removes the line break and all space after it. -/
def multilineBasic (text : List Char) : Option (List Char × List Char) :=
  match text with
  | [] => none
  | '"' :: rest =>
    match closing? '"' ('"' :: rest) with
    | some result => some result
    | none => (multilineBasic rest).map fun (cs, after) => ('"' :: cs, after)
  | '\\' :: rest =>
    if endsLine rest then multilineBasic (skipSpace rest)
    else
      match _h : escape? rest with
      | none => none
      | some (c, after) => (multilineBasic after).map fun (cs, after) => (c :: cs, after)
  | '\r' :: '\n' :: rest =>
    (multilineBasic rest).map fun (cs, after) => ('\r' :: '\n' :: cs, after)
  | c :: rest =>
    if isPlain c ∨ c = '\n' then (multilineBasic rest).map fun (cs, after) => (c :: cs, after)
    else none
termination_by text.length
decreasing_by
  · simp
  · have := length_skipSpace rest
    simp only [List.length_cons]; omega
  · have := length_of_escape? ‹_›
    simp only [List.length_cons]; omega
  · simp only [List.length_cons]; omega
  · simp

/-- A literal string over several lines up to its closing quotes, and what follows them. -/
def multilineLiteral : List Char → Option (List Char × List Char)
  | [] => none
  | c :: rest =>
    if c = '\'' then
      match closing? '\'' (c :: rest) with
      | some result => some result
      | none => (multilineLiteral rest).map fun (cs, after) => (c :: cs, after)
    else if isPlain c ∨ c = '\n' ∨ (c = '\r' ∧ rest.head? = some '\n') then
      (multilineLiteral rest).map fun (cs, after) => (c :: cs, after)
    else none

/-- A text without the line break at its beginning. -/
def dropLineBreak (text : List Char) : List Char :=
  match text with
  | '\n' :: rest => rest
  | '\r' :: '\n' :: rest => rest
  | _ => text

/-- The string at the beginning of a text, and what follows it; `none` where no string begins
there, `some none` where one begins and is not well formed. -/
def string? (text : List Char) : Option (Option (List Char × List Char)) :=
  match text with
  | '"' :: '"' :: '"' :: rest => some (multilineBasic (dropLineBreak rest))
  | '"' :: rest => some (basic rest)
  | '\'' :: '\'' :: '\'' :: rest => some (multilineLiteral (dropLineBreak rest))
  | '\'' :: rest => some (literal rest)
  | _ => none

end WarehouseSchema.Toml
