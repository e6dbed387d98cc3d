import WarehouseSchema.DataType.Basic
import WarehouseSchema.Text.Letters

/-!
# Spellings of the data types

A type may be declared by any of its synonyms, in any case and with blanks around it. `resolve`
finds the type that a declared name means. The warehouse itself reports three types by names of
their storage; `ofReported` understands these and every declared name.

The documented names are listed for themselves, so that a name can be checked without being
resolved.
-/

set_option autoImplicit false

namespace WarehouseSchema

/-- A declared name that means no type. -/
structure UnknownType where
  name : String
  deriving DecidableEq, Repr

/-- The wording of the refusal. -/
def UnknownType.message (unknown : UnknownType) : String :=
  "unknown column type '" ++ unknown.name ++ "'"

namespace DataType

/-- Every name a type may be declared by. -/
def synonyms : List (String × DataType) :=
  [("number", .number), ("decimal", .number), ("numeric", .number), ("int", .number),
   ("integer", .number), ("bigint", .number), ("smallint", .number), ("tinyint", .number),
   ("byteint", .number), ("biginteger", .number),
   ("float", .float), ("float4", .float), ("float8", .float), ("double", .float),
   ("double precision", .float), ("real", .float),
   ("varchar", .varchar), ("char", .varchar), ("character", .varchar), ("nchar", .varchar),
   ("string", .varchar), ("text", .varchar), ("nvarchar", .varchar), ("nvarchar2", .varchar),
   ("char varying", .varchar), ("nchar varying", .varchar),
   ("boolean", .boolean), ("date", .date), ("time", .time),
   ("timestamp", .timestamp),
   ("timestamp_ntz", .timestampNtz), ("datetime", .timestampNtz), ("timestampntz", .timestampNtz),
   ("timestamp without time zone", .timestampNtz),
   ("timestamp_ltz", .timestampLtz), ("timestampltz", .timestampLtz),
   ("timestamp with local time zone", .timestampLtz),
   ("timestamp_tz", .timestampTz), ("timestamptz", .timestampTz),
   ("timestamp with time zone", .timestampTz),
   ("variant", .variant), ("object", .object), ("array", .array),
   ("geography", .geography), ("geometry", .geometry),
   ("binary", .binary), ("varbinary", .varbinary)]

/-- The names documented for column declarations. -/
def documentedNames : List String :=
  ["number", "decimal", "numeric", "int", "integer", "bigint", "smallint", "tinyint", "byteint",
   "biginteger", "float", "float4", "float8", "double", "double precision", "real", "varchar",
   "char", "character", "nchar", "string", "text", "nvarchar", "nvarchar2", "char varying",
   "nchar varying", "binary", "varbinary", "boolean", "date", "time", "timestamp",
   "timestamp_ntz", "datetime", "timestampntz", "timestamp without time zone", "timestamp_ltz",
   "timestampltz", "timestamp with local time zone", "timestamp_tz", "timestamptz",
   "timestamp with time zone", "variant", "object", "array", "geography", "geometry"]

/-- Whether a name is documented, in any case and with blanks around it. -/
def isDocumentedName (name : String) : Bool :=
  documentedNames.any fun documented => Text.sameLetters documented (Text.trim name)

/-- The type that a declared name means, in any case and with blanks around it. -/
def resolve (name : String) : Except UnknownType DataType :=
  match synonyms.find? fun entry => Text.sameLetters entry.1 (Text.trim name) with
  | some entry => .ok entry.2
  | none => .error ⟨name⟩

/-- The type that a declared name means for a column that may have a time zone: the flag decides
the flavour of a timestamp that names none. -/
def resolveZoned (name : String) (zoned : Bool) : Except UnknownType DataType :=
  (resolve name).map fun type => if type = .timestamp ∧ zoned then .timestampTz else type

/-- The type that the warehouse reports by a name: a name of its storage, or a declared name. -/
def ofReported (name : String) : Except UnknownType DataType :=
  let tag := Text.trim name
  if Text.sameLetters tag "fixed" then .ok .number
  else if Text.sameLetters tag "text" then .ok .varchar
  else if Text.sameLetters tag "real" then .ok .float
  else resolve tag

end DataType

end WarehouseSchema
