import WarehouseSchema.Column.Definition
import WarehouseSchema.Table.Basic

/-!
# Creating a table

A table is created by one statement that declares its columns and its keys. It gets at most one
primary key clause. The columns of the key come from the first of these sources that names any:

* the list of key columns in the table's options, and the indexes that are primary keys;
* the columns with a property that makes them part of the key;
* the column that numbers the rows, if the table gets one.

The option and the indexes must all name the same columns in the same order. Where one of the
indexes has a name, the first such name becomes the name of the constraint.
-/

set_option autoImplicit false

namespace WarehouseSchema

/-- A statement that creates a table. -/
structure Creation where
  table : String
  columns : List (String × ColumnDefinition)
  primaryKey : Option KeyClause
  uniques : List KeyClause
  comment : Option String
  deriving DecidableEq, Repr

namespace Creation

/-- A column in a list of declarations. -/
def columnText (column : String × ColumnDefinition) : String :=
  Quoted.identifier column.1 ++ " " ++ column.2.render

/-- What stands between the parentheses, one text for each declaration. -/
def parts (creation : Creation) : List String :=
  creation.columns.map columnText ++ creation.primaryKey.toList.map KeyClause.render ++
    creation.uniques.map KeyClause.render

/-- The text of the statement. -/
def render (creation : Creation) : String :=
  "create table " ++ Quoted.identifier creation.table ++ " (" ++
    ", ".intercalate creation.parts ++ ")" ++
    match creation.comment with
    | some text => " comment = " ++ Quoted.literal text
    | none => ""

end Creation

namespace Table

/-- The first kind of index that no key of a table can be. -/
def unsupportedKind? (table : Table) : Option String :=
  table.indexes.findSome? fun index =>
    match index.kind with
    | .other name => some name
    | _ => none

/-- A column that numbers the rows of its table. -/
def numbering (name : String) (limit : Option UInt32) : Column :=
  { (Column.declare name "number") with
    precision := limit
    nullable := false
    identity := some ⟨none, none⟩ }

/-- The column that numbers the rows, where the table gets one besides its declared columns. -/
def idColumn? (table : Table) : Option Column :=
  let unlessDeclared (name : String) (limit : Option UInt32) : Option Column :=
    if (table.column? name).isSome then none else some (numbering name limit)
  match table.options.id with
  | .implicit => unlessDeclared "id" none
  | .named name limit => unlessDeclared name limit
  | .disabled => none

/-- The columns the table is created with. -/
def effectiveColumns (table : Table) : List Column :=
  table.idColumn?.toList ++ table.columns

/-- The indexes that are primary keys. -/
def keyIndexes (table : Table) : List Index :=
  table.indexes.filter fun index => index.kind = .primaryKey

/-- The lists of columns that the options and the indexes name for the primary key. -/
def explicitKeys (table : Table) : List (List String) :=
  (if table.options.primaryKey.isEmpty then [] else [table.options.primaryKey]) ++
    table.keyIndexes.map (·.columns)

/-- The names of the columns with a property that makes them part of the key. -/
def flaggedColumns (table : Table) : List String :=
  (table.columns.filter Column.isPrimaryKey).map (·.name)

/-- The clause for a key that the options or an index name. The constraint's name is that of the
first index that has one. -/
def explicitClause (table : Table) (columns : List String) : KeyClause :=
  ⟨table.keyIndexes.findSome? (·.name), .primary, columns⟩

/-- The primary key clause of the table, if it has one. -/
def primaryKeyClause (table : Table) : Except SchemaError (Option KeyClause) :=
  match table.explicitKeys with
  | first :: others =>
    match others.find? (· != first) with
    | some other => .error (.invalidArgument (.conflictingKeys table.name first other))
    | none => .ok (some (table.explicitClause first))
  | [] =>
    if table.flaggedColumns.isEmpty then
      .ok (table.idColumn?.map fun column => .unnamed .primary [column.name])
    else .ok (some (.unnamed .primary table.flaggedColumns))

/-- The unique constraints of the table: those of the options, then those of the indexes. -/
def uniqueClauses (table : Table) : List KeyClause :=
  (if table.options.unique.isEmpty then [] else [.unnamed .unique table.options.unique]) ++
    (table.indexes.filter fun index => index.kind = .unique).map (.ofIndex .unique)

/-- The name of a column with its definition. -/
def declaration (column : Column) : Except SchemaError (String × ColumnDefinition) :=
  column.definition.map fun definition => (column.name, definition)

/-- The statement that creates the table. A kind of index that no key can be is refused first, then
a column of unknown type, then keys that disagree. -/
def creation (table : Table) : Except SchemaError Creation :=
  match table.unsupportedKind? with
  | some kind => .error (.unsupportedIndex kind)
  | none => do
    let columns ← table.effectiveColumns.mapM declaration
    let primaryKey ← table.primaryKeyClause
    pure ⟨table.name, columns, primaryKey, table.uniqueClauses, table.options.comment⟩

end Table

end WarehouseSchema
