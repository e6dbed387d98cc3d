import WarehouseSchema.DataType.Basic
import WarehouseSchema.Json.Variant

/-!
# Data types in JSON

A type is written by its keyword and a family by its name.
-/

set_option autoImplicit false

namespace WarehouseSchema

/-- The JSON form of a type. -/
def DataType.toJson (type : DataType) : Json := .string type.keyword

/-- The type that a JSON value is. -/
def DataType.ofJson? (value : Json) : Option DataType :=
  Json.oneOf? DataType.keyword DataType.all value

/-- The JSON form of a family. -/
def TypeFamily.toJson (family : TypeFamily) : Json := .string family.name

/-- The family that a JSON value is. -/
def TypeFamily.ofJson? (value : Json) : Option TypeFamily :=
  Json.oneOf? TypeFamily.name TypeFamily.all value

end WarehouseSchema
