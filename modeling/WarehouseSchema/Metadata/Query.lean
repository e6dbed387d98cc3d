import WarehouseSchema.Quoted

/-!
# Queries about the warehouse

The statements that ask the warehouse what it holds. A table whose parts are asked for is named; a
table or a database that is looked for is given as a pattern in a string literal.
-/

set_option autoImplicit false

namespace WarehouseSchema.Metadata

/-- Asks for the columns of a table. -/
def showColumns (table : String) : String := "show columns in table " ++ Quoted.identifier table

/-- Asks for the tables that match a pattern. -/
def showTables (pattern : String) : String := "show tables like " ++ Quoted.literal pattern

/-- Asks for the databases that match a pattern. -/
def showDatabases (pattern : String) : String := "show databases like " ++ Quoted.literal pattern

/-- Asks for the unique constraints of a table. -/
def showUniqueKeys (table : String) : String :=
  "show unique keys in table " ++ Quoted.identifier table

/-- Asks for the primary key of a table. -/
def showPrimaryKeys (table : String) : String :=
  "show primary keys in table " ++ Quoted.identifier table

/-- Asks for the foreign keys of a table. -/
def showImportedKeys (table : String) : String :=
  "show imported keys in table " ++ Quoted.identifier table

end WarehouseSchema.Metadata
