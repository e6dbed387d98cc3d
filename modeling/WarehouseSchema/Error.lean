import WarehouseSchema.DataType.Vocabulary
import WarehouseSchema.Row
import WarehouseSchema.Text.Shown

/-!
# Refusals and failures

What can go wrong is named by its cause; the wording is given in one place, by `message`. Only a
failed statement comes from the other side of the connection.
-/

set_option autoImplicit false

namespace WarehouseSchema

/-- Why an argument was refused. -/
inductive ArgumentFault where
  /-- Two lists of key columns of one table differ. -/
  | conflictingKeys (table : String) (first second : List String)
  /-- A row to insert has no column. -/
  | emptyRow (table : String)
  /-- A row to insert, counted from zero, has other columns than the first one. -/
  | unevenRow (table : String) (index : Nat)
  /-- An item of a list of key columns is not a name. -/
  | keyItem (item : Json)
  /-- A value stands for no choice of key columns. -/
  | keyShape (value : Json)

/-- Why a description of the warehouse could not be read. -/
inductive MetadataFault where
  | columnNameMissing
  | dataTypeMissing (column : String)
  | unreadableType (descriptor : String)
  | keyColumnMissing (field : String)
  | versionMissing (row : Row)

/-- What is wrong with a configuration. -/
inductive ConfigFault where
  /-- There is no file, or it is not text. -/
  | unreadable
  /-- The text is not in the format, or a setting has the wrong kind of value. -/
  | malformed
  | unknownOrder (value : String)
  | missingOrder
  deriving DecidableEq, Repr

/-- A failure reported by the connection, with the statement if it is known. -/
structure StatementFailure where
  reason : String
  statement : Option String
  deriving DecidableEq, Repr

/-- Why an operation on a schema did not succeed. -/
inductive SchemaError where
  | unknownType (unknown : UnknownType)
  | columnNotFound (table column : String)
  | invalidArgument (fault : ArgumentFault)
  | unsupportedIndex (kind : String)
  | config (fault : ConfigFault)
  | metadata (fault : MetadataFault)
  | execution (failure : StatementFailure)

/-- The wording of a refused argument. -/
def ArgumentFault.message : ArgumentFault → String
  | .conflictingKeys table first second =>
    "table '" ++ table ++ "' declares conflicting primary keys (" ++ ", ".intercalate first ++
      ") and (" ++ ", ".intercalate second ++ ")"
  | .emptyRow table => "cannot insert a row without columns into '" ++ table ++ "'"
  | .unevenRow table index =>
    "row " ++ index.repr ++ " inserted into '" ++ table ++
      "' does not have the same columns as the first row"
  | .keyItem item => "primary key columns must be strings, got " ++ item.compact
  | .keyShape value =>
    "primary key columns must be null, a string or a list of strings, got " ++ value.compact

/-- The wording of an unreadable description. Where the descriptor of a type cannot be read, the
wording ends with the descriptor; the cause that the reader of the descriptor would give after it is
left out. -/
def MetadataFault.message : MetadataFault → String
  | .columnNameMissing => "column row is missing column_name"
  | .dataTypeMissing column => "column '" ++ column ++ "' is missing data_type"
  | .unreadableType descriptor => "invalid data_type descriptor " ++ Text.shown descriptor
  | .keyColumnMissing field => "key row is missing " ++ field
  | .versionMissing row => "version log row has no integer version: " ++ row.toJson.compact

/-- The wording of a configuration fault. What the file system or the reader of the format says
about the cause is left out. -/
def ConfigFault.message : ConfigFault → String
  | .unreadable => "the configuration file cannot be read"
  | .malformed => "the configuration cannot be parsed"
  | .unknownOrder value =>
    "invalid version_order '" ++ value ++ "', expected \"creation\" or \"execution\""
  | .missingOrder => "version_order is not configured"

namespace StatementFailure

/-- A failure of a statement that is not named yet. -/
def ofReason (reason : String) : StatementFailure := ⟨reason, none⟩

/-- The failure with the statement it belongs to. -/
def ofStatement (failure : StatementFailure) (statement : String) : StatementFailure :=
  { failure with statement := some statement }

/-- The wording of a failed statement. -/
def message (failure : StatementFailure) : String := "statement failed: " ++ failure.reason

end StatementFailure

/-- The wording of an error. -/
def SchemaError.message : SchemaError → String
  | .unknownType unknown => unknown.message
  | .columnNotFound table column =>
    "column '" ++ column ++ "' does not exist in table '" ++ table ++ "'"
  | .invalidArgument fault => "invalid argument: " ++ fault.message
  | .unsupportedIndex kind =>
    "unsupported index type '" ++ kind ++ "', only unique indexes can be added"
  | .config fault => "configuration error: " ++ fault.message
  | .metadata fault => "introspection error: " ++ fault.message
  | .execution failure => failure.message

end WarehouseSchema
