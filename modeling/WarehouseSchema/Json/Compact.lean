import WarehouseSchema.Json.Numeral
import WarehouseSchema.Json.Strings

/-!
# JSON values as compact text

A value is written without a space, the members of an object in the order in which it holds them.
-/

set_option autoImplicit false

namespace WarehouseSchema.Json

open JsonText

mutual

/-- The characters of a value. -/
def characters : Json → List Char
  | .null => ['n', 'u', 'l', 'l']
  | .bool true => ['t', 'r', 'u', 'e']
  | .bool false => ['f', 'a', 'l', 's', 'e']
  | .number n => JsonText.number n
  | .string s => quoted s.toList
  | .array items => '[' :: itemCharacters items ++ [']']
  | .object members => '\x7b' :: memberCharacters members ++ ['\x7d']

/-- The items of an array with commas between them. -/
def itemCharacters : List Json → List Char
  | [] => []
  | [item] => characters item
  | item :: next :: rest => characters item ++ ',' :: itemCharacters (next :: rest)

/-- The members of an object with commas between them. -/
def memberCharacters : List (String × Json) → List Char
  | [] => []
  | [(name, value)] => quoted name.toList ++ ':' :: characters value
  | (name, value) :: next :: rest =>
    quoted name.toList ++ ':' :: characters value ++ ',' :: memberCharacters (next :: rest)

end

/-- The compact text of a value. -/
def compact (value : Json) : String := String.ofList value.characters

end WarehouseSchema.Json
