import WarehouseSchema.Key.Encoding
import WarehouseSchema.Proofs.Json.Record
import WarehouseSchema.Table.Encoding

/-!
# Schema objects are read back from JSON

What has no value is left out when a schema object is written, and has a default when one is read.
The two rules have to agree for each field, and no two alternatives may be written alike: a default
that is the null value, the default that is null and no default at all are three different things.

## What is proved

`schema_objects_read_back`: tables and foreign keys are read from their JSON forms as they were, and
so is everything that they are made of.

`Json.ReadsBack` says that of a way to write and a way to read. The members of a record are found by
name wherever they stand, and its reader takes one field after another from them.
-/

set_option autoImplicit false

namespace WarehouseSchema

open Json RecordReader

/-! ## Defaults and identities -/

namespace ColumnDefault

theorem readsBack : ReadsBack toJson ofJson? := by
  intro default
  cases default <;> rfl

/-- No default is written as null, so that one that is absent can be. -/
theorem toJson_ne_null (default : ColumnDefault) : default.toJson ≠ .null := by
  cases default <;> exact Json.noConfusion

end ColumnDefault

namespace Identity

theorem readsBack_numberJson : ReadsBack numberJson int64? := Text.int64?_toInt

theorem readsBack : ReadsBack toJson ofJson? := by
  intro identity
  have number := readsBack_numberJson.option fun _ => Json.noConfusion
  apply read_of_taken
  rw [reader]
  refine (bind_of_taken (omittable_members rfl (number identity.seed))).trans ?_
  exact bind_of_taken (omittable_members rfl (number identity.increment))

theorem toJson_ne_null (identity : Identity) : identity.toJson ≠ .null := Json.noConfusion

end Identity

/-! ## Columns -/

namespace Column

theorem readsBack_numberJson : ReadsBack numberJson uint32? := uint32?_ofInt

theorem numberJson_ne_null (n : UInt32) : numberJson n ≠ .null := Json.noConfusion

/-- The members that a column is written with. -/
def members (column : Column) : List (String × Json) :=
  [("name", .string column.name), ("type", .string column.typeName)] ++
    memberIfSome "precision" numberJson column.precision ++
    memberIfSome "scale" numberJson column.scale ++
    memberIfSome "limit" numberJson column.limit ++
    memberIfSome "collation" .string column.collation ++
    [("nullable", .bool column.nullable), ("timezone", .bool column.zoned)] ++
    memberIfSome "default" ColumnDefault.toJson column.default ++
    memberIfSome "identity" Identity.toJson column.identity ++
    memberIfSome "comment" .string column.comment ++
    memberIfAny "properties" .string column.properties

/-- What is found under the names of the fields of a column. -/
structure Holds (fields : List (String × Json)) (column : Column) : Prop where
  name : member? fields "name" = some (.string column.name)
  type : member? fields "type" = some (.string column.typeName)
  precision : member? fields "precision" = column.precision.map numberJson
  scale : member? fields "scale" = column.scale.map numberJson
  limit : member? fields "limit" = column.limit.map numberJson
  collation : member? fields "collation" = column.collation.map .string
  nullable : member? fields "nullable" = some (.bool column.nullable)
  zoned : member? fields "timezone" = some (.bool column.zoned)
  default : member? fields "default" = column.default.map (·.toJson)
  identity : member? fields "identity" = column.identity.map (·.toJson)
  comment : member? fields "comment" = column.comment.map .string
  properties : member? fields "properties" =
    if column.properties = [] then none else some (.ofList .string column.properties)

/-- The members of a column hold its fields in whichever order they stand. -/
theorem holds_orderMembers (column : Column) : Holds (orderMembers column.members) column := by
  constructor <;> simp [members, member?_orderMembers]

theorem readsBack : ReadsBack toJson ofJson? := by
  intro column
  have holds := holds_orderMembers column
  have number := readsBack_numberJson.nullable numberJson_ne_null
  have text := readsBack_string.nullable fun _ => Json.noConfusion
  have default := ColumnDefault.readsBack.nullable ColumnDefault.toJson_ne_null
  have identity := Identity.readsBack.nullable Identity.toJson_ne_null
  show reader.read (.object (orderMembers column.members)) = some column
  apply read_of_taken
  rw [reader, bind_of_taken (required_members holds.name (readsBack_string _)),
    bind_of_taken (required_members holds.type (readsBack_string _)),
    bind_of_taken (optional_members holds.precision number),
    bind_of_taken (optional_members holds.scale number),
    bind_of_taken (optional_members holds.limit number),
    bind_of_taken (optional_members holds.collation text),
    bind_of_taken (present_members holds.nullable (readsBack_bool _)),
    bind_of_taken (present_members holds.zoned (readsBack_bool _)),
    bind_of_taken (optional_members holds.default default),
    bind_of_taken (optional_members holds.identity identity),
    bind_of_taken (optional_members holds.comment text),
    bind_of_taken (listed_members holds.properties readsBack_string)]
  rfl

end Column

/-! ## Indexes and foreign keys -/

/-- Every kind of index is read from what is written for it. -/
theorem IndexKind.readsBack : ReadsBack toJson ofJson? := by
  intro kind
  cases kind <;> rfl

/-- Every index is read from what is written for it. -/
theorem Index.readsBack : ReadsBack toJson ofJson? := by
  intro index
  let members : List (String × Json) :=
    [("kind", index.kind.toJson), ("columns", .ofList .string index.columns)] ++
      memberIfSome "name" .string index.name
  have kind : member? (orderMembers members) "kind" = some index.kind.toJson := by
    simp [members, member?_orderMembers]
  have columns : member? (orderMembers members) "columns" =
      some (.ofList .string index.columns) := by
    simp [members, member?_orderMembers]
  have name : member? (orderMembers members) "name" = index.name.map .string := by
    simp [members, member?_orderMembers]
  have text := readsBack_string.nullable fun _ => Json.noConfusion
  show reader.read (.object (orderMembers members)) = some index
  apply read_of_taken
  rw [reader, bind_of_taken (required_members kind (IndexKind.readsBack _)),
    bind_of_taken (required_members columns (readsBack_string.list _)),
    bind_of_taken (optional_members name text)]
  rfl

/-- Every foreign key is read from what is written for it. -/
theorem ForeignKey.readsBack : ReadsBack toJson ofJson? := by
  intro key
  let members : List (String × Json) :=
    [("columns", .ofList .string key.columns),
     ("referenced_table", .string key.referencedTable),
     ("referenced_columns", .ofList .string key.referencedColumns)] ++
      memberIfSome "name" .string key.name ++
      memberIfSome "on_update" .string key.onUpdate ++
      memberIfSome "on_delete" .string key.onDelete
  have columns : member? (orderMembers members) "columns" =
      some (.ofList .string key.columns) := by
    simp [members, member?_orderMembers]
  have referencedTable : member? (orderMembers members) "referenced_table" =
      some (.string key.referencedTable) := by
    simp [members, member?_orderMembers]
  have referencedColumns : member? (orderMembers members) "referenced_columns" =
      some (.ofList .string key.referencedColumns) := by
    simp [members, member?_orderMembers]
  have name : member? (orderMembers members) "name" = key.name.map .string := by
    simp [members, member?_orderMembers]
  have onUpdate : member? (orderMembers members) "on_update" = key.onUpdate.map .string := by
    simp [members, member?_orderMembers]
  have onDelete : member? (orderMembers members) "on_delete" = key.onDelete.map .string := by
    simp [members, member?_orderMembers]
  have text := readsBack_string.nullable fun _ => Json.noConfusion
  show reader.read (.object (orderMembers members)) = some key
  apply read_of_taken
  rw [reader, bind_of_taken (required_members columns (readsBack_string.list _)),
    bind_of_taken (required_members referencedTable (readsBack_string _)),
    bind_of_taken (required_members referencedColumns (readsBack_string.list _)),
    bind_of_taken (optional_members name text), bind_of_taken (optional_members onUpdate text),
    bind_of_taken (optional_members onDelete text)]
  rfl

/-! ## Tables -/

/-- Every choice of a column that numbers the rows is read from what is written for it. -/
theorem IdColumn.readsBack : ReadsBack toJson ofJson? := by
  intro id
  cases id with
  | implicit => rfl
  | disabled => rfl
  | named name limit =>
    have number := Column.readsBack_numberJson.option Column.numberJson_ne_null
    show reader.read
      (ofMembers [("name", .string name), ("limit", ofOption Column.numberJson limit)]) = _
    apply read_of_taken
    rw [reader]
    refine (bind_of_taken (required_members rfl (readsBack_string name))).trans ?_
    exact bind_of_taken (present_members rfl (number limit))

/-- All options of a table are read from what is written for them. -/
theorem TableOptions.readsBack : ReadsBack toJson ofJson? := by
  intro options
  let members : List (String × Json) :=
    [("id", options.id.toJson)] ++
      memberIfAny "primary_key" .string options.primaryKey ++
      memberIfAny "unique" .string options.unique ++
      memberIfSome "comment" .string options.comment
  have id : member? (orderMembers members) "id" = some options.id.toJson := by
    simp [members, member?_orderMembers]
  have primaryKey : member? (orderMembers members) "primary_key" =
      if options.primaryKey = [] then none else some (.ofList .string options.primaryKey) := by
    simp [members, member?_orderMembers]
  have unique : member? (orderMembers members) "unique" =
      if options.unique = [] then none else some (.ofList .string options.unique) := by
    simp [members, member?_orderMembers]
  have comment : member? (orderMembers members) "comment" = options.comment.map .string := by
    simp [members, member?_orderMembers]
  have text := readsBack_string.nullable fun _ => Json.noConfusion
  show reader.read (.object (orderMembers members)) = some options
  apply read_of_taken
  rw [reader, bind_of_taken (present_members id (IdColumn.readsBack _)),
    bind_of_taken (listed_members primaryKey readsBack_string),
    bind_of_taken (listed_members unique readsBack_string),
    bind_of_taken (optional_members comment text)]
  rfl

/-- Every table is read from what is written for it, with its columns and its indexes. -/
theorem Table.readsBack : ReadsBack toJson ofJson? := by
  intro table
  apply read_of_taken
  rw [reader]
  refine (bind_of_taken (required_members rfl (readsBack_string table.name))).trans ?_
  refine (bind_of_taken (present_members rfl (TableOptions.readsBack table.options))).trans ?_
  refine (bind_of_taken (present_members rfl (Column.readsBack.list table.columns))).trans ?_
  exact bind_of_taken (present_members rfl (Index.readsBack.list table.indexes))

/-- Tables and foreign keys are read from their JSON forms as they were, and so is all that a table
is made of. -/
theorem schema_objects_read_back :
    ReadsBack Table.toJson Table.ofJson? ∧ ReadsBack ForeignKey.toJson ForeignKey.ofJson? ∧
      ReadsBack TableOptions.toJson TableOptions.ofJson? ∧
      ReadsBack IdColumn.toJson IdColumn.ofJson? ∧ ReadsBack Column.toJson Column.ofJson? ∧
      ReadsBack ColumnDefault.toJson ColumnDefault.ofJson? ∧
      ReadsBack Identity.toJson Identity.ofJson? ∧ ReadsBack Index.toJson Index.ofJson? ∧
      ReadsBack IndexKind.toJson IndexKind.ofJson? :=
  ⟨Table.readsBack, ForeignKey.readsBack, TableOptions.readsBack, IdColumn.readsBack,
    Column.readsBack, ColumnDefault.readsBack, Identity.readsBack, Index.readsBack,
    IndexKind.readsBack⟩

end WarehouseSchema
