import WarehouseSchema.Metadata.Descriptor
import WarehouseSchema.Metadata.Identity
import WarehouseSchema.Quoted

/-!
# Columns as the warehouse reports them

A reported row names the column and its type descriptor; what else it tells is read as far as it is
there. The declared name of the column read back is the keyword of its type, so it resolves again.
-/

set_option autoImplicit false

namespace WarehouseSchema.Metadata

/-- A reported row, field by field. -/
structure ReportedColumn where
  name : String
  dataType : String
  nullFlag : Option String
  default : Option String
  comment : Option String
  autoincrement : Option String
  deriving DecidableEq, Repr

/-- The fields of a reported row. The name and the type must be there. An empty comment and a blank
description of the identity count as none. -/
def ReportedColumn.ofRow (row : Row) : Except SchemaError ReportedColumn :=
  match row.text? "column_name" with
  | none => .error (.metadata .columnNameMissing)
  | some name =>
    match row.text? "data_type" with
    | none => .error (.metadata (.dataTypeMissing name))
    | some dataType =>
      .ok
        { name
          dataType
          nullFlag := row.text? "null?"
          default := row.text? "default"
          comment := (row.text? "comment").filter fun text => text != ""
          autoincrement := (row.text? "autoincrement").filter fun text => Text.trim text != "" }

/-- The default that a reported text tells of. Empty text is none, a truth value and a quoted string
are literals, and everything else is kept as an expression. -/
def defaultOf (text : String) : Option ColumnDefault :=
  if text = "" then none
  else
    match Keyword.truthValue? text with
    | some b => some (.literal (.bool b))
    | none =>
      match Quoted.unquote? text with
      | some s => some (.literal (.string s))
      | none => some (.expression text)

/-- The column declared by a type of the warehouse with the parameters of its descriptor. Fractions
of seconds are reported as the scale of a time or a timestamp. -/
def declaredAs (name : String) (type : DataType) (descriptor : Descriptor) : Column :=
  let column := Column.declare name type.keyword
  match type.family with
  | .numeric => { column with precision := descriptor.precision, scale := descriptor.scale }
  | .time | .timestamp => { column with precision := descriptor.scale }
  | .text | .binary => { column with limit := descriptor.length, collation := descriptor.collation }
  | _ => column

/-- The column that a reported row tells of. Its descriptor says whether it may be null; where it
does not, the flag of the row does, and where neither does, it may. -/
def ReportedColumn.column (reported : ReportedColumn) : Except SchemaError Column := do
  let descriptor ← Descriptor.parse reported.dataType
  let type ← (DataType.ofReported descriptor.type).mapError .unknownType
  let flag := reported.nullFlag.bind Keyword.nullFlag?
  pure
    { declaredAs reported.name type descriptor with
      nullable := (descriptor.nullable.or flag).getD true
      default := reported.default.bind defaultOf
      identity := reported.autoincrement.map identityOf
      comment := reported.comment }

/-- The column that a row of the answer tells of. -/
def columnOf (row : Row) : Except SchemaError Column :=
  (ReportedColumn.ofRow row).bind ReportedColumn.column

/-- The columns that the rows of an answer tell of; the first row that tells of none is an error. -/
def columnsOf (rows : List Row) : Except SchemaError (List Column) := rows.mapM columnOf

end WarehouseSchema.Metadata
