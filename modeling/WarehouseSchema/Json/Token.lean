import WarehouseSchema.Json.Numeral
import WarehouseSchema.Json.Strings

/-!
# Tokens of the JSON text format

A text is cut into punctuation, the three words, numerals and strings; between them may stand
spaces, tabs, line feeds and carriage returns, and nothing else. `Token.scan` answers nothing where
a text does not consist of tokens.
-/

set_option autoImplicit false

namespace WarehouseSchema.JsonText

/-- A token of the JSON text format. -/
inductive Token where
  | openArray
  | closeArray
  | openObject
  | closeObject
  | comma
  | colon
  | null
  | bool (value : Bool)
  | numeral (value : Numeral)
  /-- A string, without text where a surrogate stands alone in it. -/
  | string (text : Option String)
  deriving DecidableEq, Repr

namespace Token

/-- Whether a character may stand between tokens. -/
def isSpace (c : Char) : Bool := c == ' ' || c == '\t' || c == '\n' || c == '\r'

/-- The token that a single character is. -/
def punctuation? (c : Char) : Option Token :=
  if c = '[' then some .openArray
  else if c = ']' then some .closeArray
  else if c = '\x7b' then some .openObject
  else if c = '\x7d' then some .closeObject
  else if c = ',' then some .comma
  else if c = ':' then some .colon
  else none

/-- The word at the beginning of a text, and what follows it. -/
def word? (text : List Char) : Option (Token × List Char) :=
  match text with
  | 'n' :: 'u' :: 'l' :: 'l' :: rest => some (.null, rest)
  | 't' :: 'r' :: 'u' :: 'e' :: rest => some (.bool true, rest)
  | 'f' :: 'a' :: 'l' :: 's' :: 'e' :: rest => some (.bool false, rest)
  | _ => none

/-- The token at the beginning of a text that begins with no space, and what follows it. -/
def first? (text : List Char) : Option (Token × List Char) :=
  match text with
  | [] => none
  | c :: rest =>
    match punctuation? c with
    | some token => some (token, rest)
    | none =>
      if c = '"' then
        (bodyCodes rest).map fun (codes, after) => (.string ((ofCodes? codes).map String.ofList), after)
      else if c = '-' ∨ c.isDigit then
        (Numeral.scan? text).map fun (spelled, after) => (.numeral spelled, after)
      else word? text

theorem length_of_word? {text after : List Char} {token : Token}
    (h : word? text = some (token, after)) : after.length < text.length := by
  unfold word? at h
  split at h <;> simp at h <;> simp [← h.2] <;> omega

/-- What follows a token is shorter than what began with it. -/
theorem length_of_first? {text after : List Char} {token : Token}
    (h : first? text = some (token, after)) : after.length < text.length := by
  unfold first? at h
  split at h
  · simp at h
  · rename_i c rest
    split at h
    · simp at h; simp [h.2]
    · split at h
      · obtain ⟨⟨codes, after'⟩, hb, h⟩ := Option.map_eq_some_iff.1 h
        simp at h
        have := length_of_bodyCodes hb
        simp [← h.2]; omega
      · split at h
        · obtain ⟨⟨spelled, after'⟩, hs, h⟩ := Option.map_eq_some_iff.1 h
          simp at h
          have := Numeral.length_of_scan? hs
          rw [← h.2]; exact this
        · exact length_of_word? h

/-- The tokens of a text. -/
def scan (text : List Char) : Option (List Token) :=
  match text with
  | [] => some []
  | c :: rest =>
    if isSpace c then scan rest
    else
      match _h : first? (c :: rest) with
      | none => none
      | some (token, after) => (scan after).map (token :: ·)
termination_by text.length
decreasing_by
  · simp
  · exact length_of_first? ‹_›

end Token

end WarehouseSchema.JsonText
