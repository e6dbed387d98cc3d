import WarehouseSchema.Column.Encoding
import WarehouseSchema.Key.Encoding
import WarehouseSchema.Table.Basic

/-!
# Tables in JSON

A table is a record of which only the name must be there. Its columns, indexes and options are
always written; of the options the lists and the comment only where they say something.
-/

set_option autoImplicit false

namespace WarehouseSchema

namespace IdColumn

/-- The JSON form of the choice of a numbering column. -/
def toJson : IdColumn → Json
  | .implicit => .string "implicit"
  | .disabled => .string "disabled"
  | .named name limit =>
    .object [("named",
      .ofMembers [("name", .string name), ("limit", .ofOption Column.numberJson limit)])]

/-- Reads the name and the number of digits of a numbering column. -/
def reader : RecordReader IdColumn := do
  let name ← .required "name" Json.string?
  let limit ← .withDefault "limit" none (Json.nullable? Json.uint32?)
  pure (.named name limit)

/-- The choice that a JSON value is; the parts of a named column are always members of an object. -/
def ofJson? (value : Json) : Option IdColumn :=
  (Json.alternative? value).bind fun (name, value) =>
    if name = "implicit" ∧ Json.isBare value then some .implicit
    else if name = "disabled" ∧ Json.isBare value then some .disabled
    else
      match value with
      | some (.object members) => if name = "named" then reader.read (.object members) else none
      | _ => none

end IdColumn

namespace TableOptions

/-- The JSON form of the options of a table. -/
def toJson (options : TableOptions) : Json :=
  .ofMembers <|
    [("id", options.id.toJson)] ++
      Json.memberIfAny "primary_key" .string options.primaryKey ++
      Json.memberIfAny "unique" .string options.unique ++
      Json.memberIfSome "comment" .string options.comment

/-- Reads the options of a table. -/
def reader : RecordReader TableOptions := do
  let id ← .withDefault "id" .implicit IdColumn.ofJson?
  let primaryKey ← .withDefault "primary_key" [] (Json.list? Json.string?)
  let unique ← .withDefault "unique" [] (Json.list? Json.string?)
  let comment ← .withDefault "comment" none (Json.nullable? Json.string?)
  pure ⟨id, primaryKey, unique, comment⟩

/-- The options that a JSON value is. -/
def ofJson? (value : Json) : Option TableOptions := reader.read value

end TableOptions

namespace Table

/-- The JSON form of a table. -/
def toJson (table : Table) : Json :=
  .ofMembers
    [("name", .string table.name), ("options", table.options.toJson),
     ("columns", .ofList Column.toJson table.columns),
     ("indexes", .ofList Index.toJson table.indexes)]

/-- Reads the fields of a table. -/
def reader : RecordReader Table := do
  let name ← .required "name" Json.string?
  let options ← .withDefault "options" .standard TableOptions.ofJson?
  let columns ← .withDefault "columns" [] (Json.list? Column.ofJson?)
  let indexes ← .withDefault "indexes" [] (Json.list? Index.ofJson?)
  pure ⟨name, options, columns, indexes⟩

/-- The table that a JSON value is. -/
def ofJson? (value : Json) : Option Table := reader.read value

end Table

end WarehouseSchema
