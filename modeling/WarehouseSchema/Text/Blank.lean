/-!
# Blanks

The characters that may surround a word without belonging to it: exactly the characters with the
Unicode property `White_Space`. The zero-width space, the byte-order mark and the Mongolian vowel
separator do not have it. `trim` removes a maximal run of blanks from either end.
-/

set_option autoImplicit false

namespace WarehouseSchema.Text

/-- Whether a character has the Unicode property `White_Space`. -/
def isBlank (c : Char) : Bool :=
  let n := c.toNat
  (0x09 ≤ n && n ≤ 0x0D) || n == 0x20 || n == 0x85 || n == 0xA0 || n == 0x1680 ||
    (0x2000 ≤ n && n ≤ 0x200A) || n == 0x2028 || n == 0x2029 || n == 0x202F || n == 0x205F ||
    n == 0x3000

/-- A text without the blanks at its two ends. -/
def trimmed (text : List Char) : List Char :=
  ((text.dropWhile isBlank).reverse.dropWhile isBlank).reverse

/-- A text without the blanks at its two ends. -/
def trim (text : String) : String :=
  String.ofList (trimmed text.toList)

theorem toList_trim (text : String) : (trim text).toList = trimmed text.toList :=
  String.toList_ofList

end WarehouseSchema.Text
