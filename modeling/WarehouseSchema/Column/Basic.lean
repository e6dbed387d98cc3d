import WarehouseSchema.Error
import WarehouseSchema.Keyword

/-!
# Columns

A column as it is declared: its name, the name of its type, the parameters of the type, and what
else may stand in its definition. Parameters that its type does not take are kept and have no
effect.
-/

set_option autoImplicit false

namespace WarehouseSchema

/-- The default of a column. -/
inductive ColumnDefault where
  /-- A value, written as the type of the column asks for. -/
  | literal (value : Json)
  /-- Text that is written as it is. -/
  | expression (sql : String)
  /-- The default is null, which is not the same as having none. -/
  | null
  deriving Repr

/-- Where a column that counts by itself begins, and its step. -/
structure Identity where
  seed : Option Int64
  increment : Option Int64
  deriving DecidableEq, Repr

/-- A column of a table. -/
structure Column where
  name : String
  typeName : String
  precision : Option UInt32
  scale : Option UInt32
  limit : Option UInt32
  collation : Option String
  nullable : Bool
  /-- Whether a timestamp that names no flavour has a time zone. -/
  zoned : Bool
  default : Option ColumnDefault
  identity : Option Identity
  comment : Option String
  /-- Text that is put into the definition as it is. -/
  properties : List String
  deriving Repr

namespace Column

/-- A nullable column of which only the name and the type are declared. -/
def declare (name typeName : String) : Column :=
  ⟨name, typeName, none, none, none, none, true, false, none, none, none, []⟩

/-- The type of the column. -/
def type (column : Column) : Except UnknownType DataType :=
  DataType.resolveZoned column.typeName column.zoned

/-- The type of the column, as an operation on a schema asks for it. -/
def dataType (column : Column) : Except SchemaError DataType :=
  column.type.mapError .unknownType

/-- Whether a property makes the column part of the primary key. -/
def isPrimaryKey (column : Column) : Bool := column.properties.any Keyword.isPrimaryKey

def withName (column : Column) (name : String) : Column := { column with name }

def withPrecision (column : Column) (precision : UInt32) : Column :=
  { column with precision := some precision }

def withScale (column : Column) (scale : UInt32) : Column := { column with scale := some scale }

def withLimit (column : Column) (limit : UInt32) : Column := { column with limit := some limit }

def withCollation (column : Column) (collation : String) : Column :=
  { column with collation := some collation }

def withNullable (column : Column) (nullable : Bool) : Column := { column with nullable }

def notNull (column : Column) : Column := column.withNullable false

def withTimeZone (column : Column) : Column := { column with zoned := true }

def withDefault (column : Column) (default : ColumnDefault) : Column :=
  { column with default := some default }

def withIdentity (column : Column) (identity : Identity) : Column :=
  { column with identity := some identity }

def withComment (column : Column) (comment : String) : Column :=
  { column with comment := some comment }

/-- The column with one more property after the others. -/
def withProperty (column : Column) (property : String) : Column :=
  { column with properties := column.properties ++ [property] }

end Column

end WarehouseSchema
