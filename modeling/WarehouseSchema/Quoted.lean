/-!
# Quoted names and literals

A name stands between double quotes, so that the warehouse keeps its case; a double quote inside it
is written as it is. A string literal stands between single quotes, and a single quote inside it is
written twice. `unquote?` removes the quotes of a literal again and reads each doubled quote as one.
-/

set_option autoImplicit false

namespace WarehouseSchema.Quoted

/-- A table, column or constraint name between double quotes. -/
def identifier (name : String) : String := "\"" ++ name ++ "\""

/-- The names of a list, each quoted, with a comma and a space between them. -/
def identifiers (names : List String) : String := ", ".intercalate (names.map identifier)

/-- Writes every single quote twice. -/
def doubled : List Char → List Char
  | [] => []
  | c :: rest => if c = '\'' then '\'' :: '\'' :: doubled rest else c :: doubled rest

/-- Reads every doubled single quote as one, from the left; a quote that stands alone remains. -/
def undoubled : List Char → List Char
  | [] => []
  | [c] => [c]
  | c :: d :: rest =>
    if c = '\'' ∧ d = '\'' then '\'' :: undoubled rest else c :: undoubled (d :: rest)

/-- A string literal. -/
def literal (text : String) : String :=
  String.ofList ('\'' :: doubled text.toList ++ ['\''])

/-- The text inside a pair of single quotes, or nothing where the text does not begin and end with
a quote of its own. -/
def unquote? (text : String) : Option String :=
  match text.toList with
  | [] => none
  | opening :: rest =>
    if opening = '\'' ∧ rest.getLast? = some '\'' then
      some (String.ofList (undoubled rest.dropLast))
    else none

theorem toList_literal (text : String) :
    (literal text).toList = '\'' :: doubled text.toList ++ ['\''] :=
  String.toList_ofList

/-- A text is read back from its doubled quotes. -/
theorem undoubled_doubled (text : List Char) : undoubled (doubled text) = text := by
  induction text with
  | nil => rfl
  | cons c rest ih =>
    by_cases h : c = '\''
    · simp [doubled, undoubled, h, ih]
    · cases hr : doubled rest with
      | nil => simp_all [doubled, undoubled]
      | cons d tail => rw [hr] at ih; simp [doubled, undoubled, h, hr, ih]

/-- A literal is unquoted to the text that it was made from. -/
theorem unquote?_literal (text : String) : unquote? (literal text) = some text := by
  simp [unquote?, toList_literal, undoubled_doubled]

end WarehouseSchema.Quoted
