import WarehouseSchema.Column.Basic
import WarehouseSchema.Key.Index

/-!
# Tables

A table to create: its columns and indexes, and the options that hold for the table as a whole.
-/

set_option autoImplicit false

namespace WarehouseSchema

/-- How a table comes by a column of its own that numbers its rows. -/
inductive IdColumn where
  /-- A column named `id`, unless the table declares one of that name. -/
  | implicit
  /-- None. -/
  | disabled
  /-- A column of this name, with this many digits, unless the table declares one of that name. -/
  | named (name : String) (limit : Option UInt32)
  deriving DecidableEq, Repr

/-- The options of a table. -/
structure TableOptions where
  id : IdColumn
  primaryKey : List String
  unique : List String
  comment : Option String
  deriving DecidableEq, Repr

/-- The options of a table for which nothing is chosen. -/
def TableOptions.standard : TableOptions := ⟨.implicit, [], [], none⟩

/-- A table to create. -/
structure Table where
  name : String
  options : TableOptions
  columns : List Column
  indexes : List Index
  deriving Repr

namespace Table

/-- A table without declared columns. -/
def declare (name : String) : Table := ⟨name, .standard, [], []⟩

/-- The table with one more column after the others. -/
def withColumn (table : Table) (column : Column) : Table :=
  { table with columns := table.columns ++ [column] }

/-- The table with one more index after the others. -/
def withIndex (table : Table) (index : Index) : Table :=
  { table with indexes := table.indexes ++ [index] }

/-- The table with another choice of numbering column. -/
def withId (table : Table) (id : IdColumn) : Table :=
  { table with options := { table.options with id } }

/-- The table with this list of key columns in place of the one before. -/
def withPrimaryKey (table : Table) (primaryKey : List String) : Table :=
  { table with options := { table.options with primaryKey } }

/-- The table with this list of unique columns in place of the one before. -/
def withUnique (table : Table) (unique : List String) : Table :=
  { table with options := { table.options with unique } }

/-- The table with a comment. -/
def withComment (table : Table) (comment : String) : Table :=
  { table with options := { table.options with comment := some comment } }

/-- The first column of a name. -/
def column? (table : Table) (name : String) : Option Column :=
  table.columns.find? (·.name == name)

end Table

end WarehouseSchema
