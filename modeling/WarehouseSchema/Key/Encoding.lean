import WarehouseSchema.Json.Variant
import WarehouseSchema.Key.Foreign
import WarehouseSchema.Key.Index

/-!
# Indexes and foreign keys in JSON

Both are records, of which only the name and the actions may be missing. An index of a kind that is
known by its name alone carries that name.
-/

set_option autoImplicit false

namespace WarehouseSchema

namespace IndexKind

/-- The JSON form of a kind. -/
def toJson : IndexKind → Json
  | .unique => .string "unique"
  | .primaryKey => .string "primary_key"
  | .other name => .object [("other", .string name)]

/-- The kind that a JSON value is. -/
def ofJson? (value : Json) : Option IndexKind :=
  (Json.alternative? value).bind fun (name, value) =>
    if name = "unique" ∧ Json.isBare value then some .unique
    else if name = "primary_key" ∧ Json.isBare value then some .primaryKey
    else if name = "other" then (value.bind Json.string?).map .other
    else none

end IndexKind

namespace Index

/-- The JSON form of an index. -/
def toJson (index : Index) : Json :=
  .ofMembers <|
    [("kind", index.kind.toJson), ("columns", .ofList .string index.columns)] ++
      Json.memberIfSome "name" .string index.name

/-- Reads the fields of an index. -/
def reader : RecordReader Index := do
  let kind ← .required "kind" IndexKind.ofJson?
  let columns ← .required "columns" (Json.list? Json.string?)
  let name ← .withDefault "name" none (Json.nullable? Json.string?)
  pure ⟨kind, columns, name⟩

/-- The index that a JSON value is. -/
def ofJson? (value : Json) : Option Index := reader.read value

end Index

namespace ForeignKey

/-- The JSON form of a foreign key. -/
def toJson (key : ForeignKey) : Json :=
  .ofMembers <|
    [("columns", .ofList .string key.columns),
     ("referenced_table", .string key.referencedTable),
     ("referenced_columns", .ofList .string key.referencedColumns)] ++
      Json.memberIfSome "name" .string key.name ++
      Json.memberIfSome "on_update" .string key.onUpdate ++
      Json.memberIfSome "on_delete" .string key.onDelete

/-- Reads the fields of a foreign key. -/
def reader : RecordReader ForeignKey := do
  let columns ← .required "columns" (Json.list? Json.string?)
  let referencedTable ← .required "referenced_table" Json.string?
  let referencedColumns ← .required "referenced_columns" (Json.list? Json.string?)
  let name ← .withDefault "name" none (Json.nullable? Json.string?)
  let onUpdate ← .withDefault "on_update" none (Json.nullable? Json.string?)
  let onDelete ← .withDefault "on_delete" none (Json.nullable? Json.string?)
  pure ⟨columns, referencedTable, referencedColumns, name, onUpdate, onDelete⟩

/-- The foreign key that a JSON value is. -/
def ofJson? (value : Json) : Option ForeignKey := reader.read value

end ForeignKey

end WarehouseSchema
