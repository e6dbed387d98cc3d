/-!
# Data types

The types a warehouse keeps apart, each with the keyword it is declared by, and the families of
types whose literals and changes follow the same rules. A declared type may take a length, a
precision or an identity clause; everything else about a declaration is the column's affair.
-/

set_option autoImplicit false

namespace WarehouseSchema

/-- Types whose values behave alike in a declaration. -/
inductive TypeFamily where
  | numeric
  | float
  | text
  | boolean
  | date
  | time
  | timestamp
  | semiStructured
  | geospatial
  | binary
  deriving DecidableEq, Repr

namespace TypeFamily

/-- Every family once. -/
def all : List TypeFamily :=
  [.numeric, .float, .text, .boolean, .date, .time, .timestamp, .semiStructured, .geospatial,
   .binary]

/-- The name a family is recorded by. -/
def name : TypeFamily → String
  | .numeric => "numeric"
  | .float => "float"
  | .text => "string"
  | .boolean => "boolean"
  | .date => "date"
  | .time => "time"
  | .timestamp => "timestamp"
  | .semiStructured => "semi_structured"
  | .geospatial => "geospatial"
  | .binary => "binary"

/-- Whether default literals are written without quotes. -/
def hasBareLiterals : TypeFamily → Bool
  | .numeric | .float => true
  | _ => false

/-- Whether default literals are string literals. -/
def hasQuotedLiterals : TypeFamily → Bool
  | .text | .date | .time | .timestamp => true
  | _ => false

/-- Whether values are dates, times or timestamps. -/
def isTemporal : TypeFamily → Bool
  | .date | .time | .timestamp => true
  | _ => false

end TypeFamily

/-- A type of column, after its spelling has been understood. -/
inductive DataType where
  | number
  | float
  | varchar
  | boolean
  | date
  | time
  /-- A timestamp whose flavour the session decides. -/
  | timestamp
  | timestampNtz
  | timestampLtz
  | timestampTz
  | variant
  | object
  | array
  | geography
  | geometry
  | binary
  | varbinary
  deriving DecidableEq, Repr

namespace DataType

/-- Every type once. -/
def all : List DataType :=
  [.number, .float, .varchar, .boolean, .date, .time, .timestamp, .timestampNtz, .timestampLtz,
   .timestampTz, .variant, .object, .array, .geography, .geometry, .binary, .varbinary]

/-- The keyword a type is declared by. -/
def keyword : DataType → String
  | .number => "number"
  | .float => "float"
  | .varchar => "varchar"
  | .boolean => "boolean"
  | .date => "date"
  | .time => "time"
  | .timestamp => "timestamp"
  | .timestampNtz => "timestamp_ntz"
  | .timestampLtz => "timestamp_ltz"
  | .timestampTz => "timestamp_tz"
  | .variant => "variant"
  | .object => "object"
  | .array => "array"
  | .geography => "geography"
  | .geometry => "geometry"
  | .binary => "binary"
  | .varbinary => "varbinary"

/-- The family of a type. -/
def family : DataType → TypeFamily
  | .number => .numeric
  | .float => .float
  | .varchar => .text
  | .boolean => .boolean
  | .date => .date
  | .time => .time
  | .timestamp | .timestampNtz | .timestampLtz | .timestampTz => .timestamp
  | .variant | .object | .array => .semiStructured
  | .geography | .geometry => .geospatial
  | .binary | .varbinary => .binary

/-- Whether a declaration may carry a length. -/
def takesLimit : DataType → Bool
  | .varchar | .binary | .varbinary => true
  | _ => false

/-- Whether a declaration may carry a precision. -/
def takesPrecision : DataType → Bool
  | .number | .time | .timestamp | .timestampNtz | .timestampLtz | .timestampTz => true
  | _ => false

/-- Whether a column of this type may count up by itself. -/
def supportsIdentity : DataType → Bool
  | .number => true
  | _ => false

/-- The type under which a column of this type is kept and reported. -/
def stored : DataType → DataType
  | .timestamp => .timestampNtz
  | type => type

theorem mem_all (type : DataType) : type ∈ all := by cases type <;> decide

end DataType

end WarehouseSchema
