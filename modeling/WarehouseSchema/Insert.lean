import WarehouseSchema.Error
import WarehouseSchema.Quoted

/-!
# Inserting rows

Rows are inserted by one statement. With bound values it has a placeholder for every value, numbered
from one through all rows; with values in place it shows every value as a literal. All rows must
have the columns of the first one, whose order counts.
-/

set_option autoImplicit false

namespace WarehouseSchema.Insert

/-- A statement with placeholders, and the values to bind to them in order. -/
structure Bound where
  sql : String
  values : List Json

/-- Whether a row has exactly the given columns. -/
def hasColumns (columns : List String) (row : Row) : Bool :=
  row.fields.length == columns.length && columns.all row.contains

/-- The columns that all rows have, in the order of the first row; there are none where there is no
row. -/
def sharedColumns (table : String) : List Row → Except SchemaError (List String)
  | [] => .ok []
  | first :: others =>
    let columns := first.names
    if columns.isEmpty then .error (.invalidArgument (.emptyRow table))
    else
      match others.findIdx? fun row => !hasColumns columns row with
      | some index => .error (.invalidArgument (.unevenRow table (index + 1)))
      | none => .ok columns

/-- The statement up to its first group of values. -/
def opening (table : String) (columns : List String) : String :=
  "insert into " ++ Quoted.identifier table ++ " (" ++ Quoted.identifiers columns ++ ") values "

/-- The values of a row in the order of the columns. -/
def valuesOf (columns : List String) (row : Row) : List Json :=
  columns.map fun column => (row.get? column).getD .null

/-- A value as it is bound: a truth value is bound as its word in capitals. -/
def bound : Json → Json
  | .bool true => .string "TRUE"
  | .bool false => .string "FALSE"
  | value => value

/-- A value as a literal in the statement. -/
def literal : Json → String
  | .string text => Quoted.literal text
  | .array items => Quoted.literal (Json.array items).compact
  | .object members => Quoted.literal (Json.object members).compact
  | value => value.compact

/-- Texts between parentheses. -/
def group (texts : List String) : String := "(" ++ ", ".intercalate texts ++ ")"

/-- The placeholder of a number. -/
def placeholder (number : Nat) : String := ":" ++ number.repr

/-- The placeholders of as many rows as given, each of the given width, numbered on from `first`. -/
def placeholderGroups (width : Nat) : (first rows : Nat) → List String
  | _, 0 => []
  | first, rows + 1 =>
    group ((List.range width).map fun i => placeholder (first + i)) ::
      placeholderGroups width (first + width) rows

/-- The statement with placeholders for the values of the rows; nothing where there is no row. -/
def prepared (table : String) (rows : List Row) : Except SchemaError (Option Bound) :=
  (sharedColumns table rows).map fun columns =>
    if columns.isEmpty then none
    else
      some
        { sql := opening table columns ++
            ", ".intercalate (placeholderGroups columns.length 1 rows.length)
          values := rows.flatMap fun row => (valuesOf columns row).map bound }

/-- The statement with the values of the rows in place; nothing where there is no row. -/
def inPlace (table : String) (rows : List Row) : Except SchemaError (Option String) :=
  (sharedColumns table rows).map fun columns =>
    if columns.isEmpty then none
    else
      some (opening table columns ++
        ", ".intercalate (rows.map fun row => group ((valuesOf columns row).map literal)) ++ ";")

end WarehouseSchema.Insert
