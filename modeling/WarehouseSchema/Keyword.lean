import WarehouseSchema.Text.Letters

/-!
# Words with a meaning

A few words decide how a text is read: the names of functions whose calls are defaults of their own,
the two truth values, the flags of a nullable column, and the property that makes a column part of
the primary key. Blanks around a word and the case of its letters do not matter.
-/

set_option autoImplicit false

namespace WarehouseSchema.Keyword

/-- The functions whose calls may stand as a default. A longer name that begins with one of these
is taken for a call as well. -/
def defaultFunctions : List String :=
  ["current_timestamp", "sysdate", "convert_timezone", "to_varchar", "to_timestamp", "uuid_string"]

/-- Whether a text begins with the name of a function whose call may stand as a default. -/
def isFunctionCall (text : String) : Bool :=
  defaultFunctions.any fun name => Text.beginsWithWord name (Text.trim text)

/-- The truth value that a text names. -/
def truthValue? (text : String) : Option Bool :=
  let word := Text.trim text
  if Text.sameLetters word "true" then some true
  else if Text.sameLetters word "false" then some false
  else none

/-- Whether a column may be null, as a description of it says: by a letter or by a truth value. -/
def nullFlag? (text : String) : Option Bool :=
  let word := Text.trim text
  if Text.sameLetters word "y" then some true
  else if Text.sameLetters word "n" then some false
  else truthValue? word

/-- Whether a column property makes the column part of the primary key. -/
def isPrimaryKey (property : String) : Bool :=
  let words := Text.trim property
  Text.sameLetters words "primary key" || Text.sameLetters words "primary_key"

/-- The word for a truth value. -/
def ofBool (value : Bool) : String := if value then "true" else "false"

end WarehouseSchema.Keyword
