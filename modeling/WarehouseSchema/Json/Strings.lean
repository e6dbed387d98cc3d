/-!
# Strings of the JSON text format

A string is written between double quotes. The quote, the backslash and the controls below the
space are escaped, five of the controls by a letter and the others by four hexadecimal digits;
every other character stands for itself. A reader also accepts an escaped slash, escapes by number
for any character, and two such escapes that form a surrogate pair. A surrogate that stands alone is
part of the format, but the string then has no text.
-/

set_option autoImplicit false

namespace WarehouseSchema.JsonText

/-- The letter that escapes a character after a backslash, if it has one for writing. -/
def escapeLetter? (c : Char) : Option Char :=
  if c = '"' then some '"'
  else if c = '\\' then some '\\'
  else if c = '\x08' then some 'b'
  else if c = '\x0c' then some 'f'
  else if c = '\n' then some 'n'
  else if c = '\r' then some 'r'
  else if c = '\t' then some 't'
  else none

/-- One character of a written string. -/
def escaped (c : Char) : List Char :=
  match escapeLetter? c with
  | some letter => ['\\', letter]
  | none =>
    if c.toNat < 0x20 then
      ['\\', 'u', '0', '0', Nat.digitChar (c.toNat / 16), Nat.digitChar (c.toNat % 16)]
    else [c]

/-- A string between its quotes. -/
def quoted (text : List Char) : List Char := '"' :: text.flatMap escaped ++ ['"']

/-- The character that a letter stands for after a backslash. -/
def ofEscapeLetter? (letter : Char) : Option Char :=
  if letter = '"' then some '"'
  else if letter = '\\' then some '\\'
  else if letter = '/' then some '/'
  else if letter = 'b' then some '\x08'
  else if letter = 'f' then some '\x0c'
  else if letter = 'n' then some '\n'
  else if letter = 'r' then some '\r'
  else if letter = 't' then some '\t'
  else none

/-- The value of a hexadecimal digit of either case. -/
def hexValue? (c : Char) : Option Nat :=
  if '0' ≤ c ∧ c ≤ '9' then some (c.toNat - 0x30)
  else if 'a' ≤ c ∧ c ≤ 'f' then some (c.toNat - 0x61 + 10)
  else if 'A' ≤ c ∧ c ≤ 'F' then some (c.toNat - 0x41 + 10)
  else none

/-- The number that hexadecimal digits stand for. -/
def hexNumber? (digits : List Char) : Option Nat :=
  digits.foldlM (fun n c => (hexValue? c).map (n * 16 + ·)) 0

/-- The code points of a string body up to its closing quote, and what follows the quote. An escape
by number counts for one code point, also where it is half of a surrogate pair. -/
def bodyCodes : List Char → Option (List Nat × List Char)
  | [] => none
  | '"' :: rest => some ([], rest)
  | '\\' :: 'u' :: a :: b :: c :: d :: rest =>
    match hexNumber? [a, b, c, d], bodyCodes rest with
    | some n, some (codes, after) => some (n :: codes, after)
    | _, _ => none
  | '\\' :: letter :: rest =>
    match ofEscapeLetter? letter, bodyCodes rest with
    | some c, some (codes, after) => some (c.toNat :: codes, after)
    | _, _ => none
  | c :: rest =>
    if c.toNat < 0x20 then none
    else (bodyCodes rest).map fun (codes, after) => (c.toNat :: codes, after)

/-- The characters of a sequence of code points, a surrogate pair giving one character; nothing
where a surrogate stands alone. -/
def ofCodes? : List Nat → Option (List Char)
  | [] => some []
  | [n] => if 0xD800 ≤ n ∧ n ≤ 0xDFFF then none else some [Char.ofNat n]
  | n :: m :: rest =>
    if 0xD800 ≤ n ∧ n ≤ 0xDBFF ∧ 0xDC00 ≤ m ∧ m ≤ 0xDFFF then
      (ofCodes? rest).map (Char.ofNat (0x10000 + (n - 0xD800) * 0x400 + (m - 0xDC00)) :: ·)
    else if 0xD800 ≤ n ∧ n ≤ 0xDFFF then none
    else (ofCodes? (m :: rest)).map (Char.ofNat n :: ·)

/-- What follows a string is shorter than what began with it. -/
theorem length_of_bodyCodes {text after : List Char} {codes : List Nat}
    (h : bodyCodes text = some (codes, after)) : after.length < text.length := by
  fun_induction bodyCodes text generalizing codes after with
  | case1 => simp at h
  | case2 rest => simp at h; simp [← h.2]
  | case3 a b c d rest n codes' after' hr _ ih =>
    simp at h; have := ih hr; simp [← h.2]; omega
  | case4 => simp at h
  | case5 letter rest _ c codes' after' hr _ ih =>
    simp at h; have := ih hr; simp [← h.2]; omega
  | case6 => simp at h
  | case7 => simp at h
  | case8 c rest _ _ _ _ ih =>
    obtain ⟨⟨codes', after'⟩, hr, he⟩ := Option.map_eq_some_iff.1 h
    simp at he; have := ih hr; simp [← he.2]; omega

end WarehouseSchema.JsonText
