import WarehouseSchema.Column.Basic
import WarehouseSchema.Json.Variant

/-!
# Columns in JSON

A column is a record. Only its name and its type must be there; what has no value is not written. A
default says what kind of default it is and then its value.
-/

set_option autoImplicit false

namespace WarehouseSchema

namespace ColumnDefault

/-- The JSON form of a default. -/
def toJson : ColumnDefault → Json
  | .literal value => .ofMembers [("kind", .string "literal"), ("value", value)]
  | .expression sql => .ofMembers [("kind", .string "expression"), ("value", .string sql)]
  | .null => .ofMembers [("kind", .string "null")]

/-- The default of a kind with the value that is written for it, if one is. -/
def ofKind? (kind : String) (value : Option Json) : Option ColumnDefault :=
  if kind = "literal" then value.map .literal
  else if kind = "expression" then (value.bind Json.string?).map .expression
  else if kind = "null" then
    match value with
    | none | some .null => some .null
    | some _ => none
  else none

/-- The default that a JSON value is. In an object the kind may be written in either form of an
alternative without a value, in an array only by its name. -/
def ofJson? : Json → Option ColumnDefault
  | .object members =>
    ((Json.member? members "kind").bind Json.bareName?).bind fun kind =>
      ofKind? kind (Json.member? members "value")
  | .array [kind, value] => (Json.string? kind).bind fun kind => ofKind? kind (some value)
  | _ => none

end ColumnDefault

namespace Identity

/-- The JSON form of a 64-bit number. -/
def numberJson (n : Int64) : Json := .ofInt n.toInt

/-- The JSON form of an identity. -/
def toJson (identity : Identity) : Json :=
  .ofMembers
    [("seed", .ofOption numberJson identity.seed),
     ("increment", .ofOption numberJson identity.increment)]

/-- Reads the fields of an identity. -/
def reader : RecordReader Identity := do
  let seed ← .omittable "seed" (Json.nullable? Json.int64?)
  let increment ← .omittable "increment" (Json.nullable? Json.int64?)
  pure ⟨seed.join, increment.join⟩

/-- The identity that a JSON value is. -/
def ofJson? (value : Json) : Option Identity := reader.read value

end Identity

namespace Column

/-- The JSON form of a 32-bit number. -/
def numberJson (n : UInt32) : Json := .ofInt n.toNat

/-- The JSON form of a column. -/
def toJson (column : Column) : Json :=
  .ofMembers <|
    [("name", .string column.name), ("type", .string column.typeName)] ++
      Json.memberIfSome "precision" numberJson column.precision ++
      Json.memberIfSome "scale" numberJson column.scale ++
      Json.memberIfSome "limit" numberJson column.limit ++
      Json.memberIfSome "collation" .string column.collation ++
      [("nullable", .bool column.nullable), ("timezone", .bool column.zoned)] ++
      Json.memberIfSome "default" ColumnDefault.toJson column.default ++
      Json.memberIfSome "identity" Identity.toJson column.identity ++
      Json.memberIfSome "comment" .string column.comment ++
      Json.memberIfAny "properties" .string column.properties

/-- Reads the fields of a column. -/
def reader : RecordReader Column := do
  let name ← .required "name" Json.string?
  let typeName ← .required "type" Json.string?
  let precision ← .withDefault "precision" none (Json.nullable? Json.uint32?)
  let scale ← .withDefault "scale" none (Json.nullable? Json.uint32?)
  let limit ← .withDefault "limit" none (Json.nullable? Json.uint32?)
  let collation ← .withDefault "collation" none (Json.nullable? Json.string?)
  let nullable ← .withDefault "nullable" true Json.bool?
  let zoned ← .withDefault "timezone" false Json.bool?
  let default ← .withDefault "default" none (Json.nullable? ColumnDefault.ofJson?)
  let identity ← .withDefault "identity" none (Json.nullable? Identity.ofJson?)
  let comment ← .withDefault "comment" none (Json.nullable? Json.string?)
  let properties ← .withDefault "properties" [] (Json.list? Json.string?)
  pure
    ⟨name, typeName, precision, scale, limit, collation, nullable, zoned, default, identity, comment,
      properties⟩

/-- The column that a JSON value is. -/
def ofJson? (value : Json) : Option Column := reader.read value

end Column

end WarehouseSchema
