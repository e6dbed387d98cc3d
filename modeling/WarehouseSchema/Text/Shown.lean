import WarehouseSchema.Text.Unprintable

/-!
# Texts shown in messages

A text that is quoted in a message stands between double quotes. The quote and the backslash are
preceded by a backslash, four controls have letters of their own, every other character that a
reader could not see is written as its code point in hexadecimal, and the rest stands for itself.
-/

set_option autoImplicit false

namespace WarehouseSchema.Text

/-- The lower-case hexadecimal digits of a number. -/
def hexadecimal (n : Nat) : List Char := Nat.toDigits 16 n

/-- One character of a shown text. -/
def shownChar (c : Char) : List Char :=
  if c = '"' then ['\\', '"']
  else if c = '\\' then ['\\', '\\']
  else if c = '\n' then ['\\', 'n']
  else if c = '\r' then ['\\', 'r']
  else if c = '\t' then ['\\', 't']
  else if c.toNat = 0 then ['\\', '0']
  else if isShownByNumber c then ['\\', 'u', '\x7b'] ++ hexadecimal c.toNat ++ ['\x7d']
  else [c]

/-- A text between double quotes with the characters that a reader could not see spelled out. -/
def shown (text : String) : String :=
  String.ofList ('"' :: text.toList.flatMap shownChar ++ ['"'])

end WarehouseSchema.Text
