import WarehouseSchema.Error

/-!
# The choice of a new primary key

The primary key of a table may be given up, or moved to one column or to several. A loosely typed
value makes the same choice: null, a name, or a list of names.
-/

set_option autoImplicit false

namespace WarehouseSchema

/-- The columns of a new primary key. -/
inductive KeyChoice where
  /-- The table is to have no primary key. -/
  | none
  | single (column : String)
  | many (columns : List String)
  deriving DecidableEq, Repr

namespace KeyChoice

/-- The chosen columns. -/
def columns : KeyChoice → List String
  | .none => []
  | .single column => [column]
  | .many columns => columns

/-- Whether no column is chosen. -/
def isEmpty (choice : KeyChoice) : Bool := choice.columns.isEmpty

/-- The name that an item of a list of key columns is. -/
def columnOf : Json → Except SchemaError String
  | .string name => .ok name
  | item => .error (.invalidArgument (.keyItem item))

/-- The choice that a loosely typed value makes. -/
def ofJson : Json → Except SchemaError KeyChoice
  | .null => .ok .none
  | .string column => .ok (.single column)
  | .array items => (items.mapM columnOf).map .many
  | value => .error (.invalidArgument (.keyShape value))

end KeyChoice

end WarehouseSchema
