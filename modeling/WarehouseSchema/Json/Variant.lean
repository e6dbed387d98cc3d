import WarehouseSchema.Json.Record

/-!
# Alternatives in JSON

One of several alternatives is written by its name. An alternative that carries a value is written
as an object whose only member has that name; one that carries none may be written so as well, with
null in place of the value.
-/

set_option autoImplicit false

namespace WarehouseSchema.Json

/-- The name of an alternative, and the value that it carries if one is written. -/
def alternative? : Json → Option (String × Option Json)
  | .string name => some (name, none)
  | .object [(name, value)] => some (name, some value)
  | _ => none

/-- Whether what is written of a value may stand for no value. -/
def isBare : Option Json → Bool
  | none | some .null => true
  | some _ => false

/-- The name of an alternative that carries no value. -/
def bareName? (written : Json) : Option String :=
  (alternative? written).bind fun (name, value) => if isBare value then some name else none

/-- The one of several alternatives without values that is written. -/
def oneOf? {α : Type} (name : α → String) (alternatives : List α) (written : Json) : Option α :=
  (bareName? written).bind fun written => alternatives.find? fun a => name a == written

end WarehouseSchema.Json
