import WarehouseSchema.Column.Basic
import WarehouseSchema.Quoted

/-!
# Column definitions

What a statement says about a column after its name: the type with its parameters, an identity
clause, whether nulls are allowed, a default, further properties and a comment, in this order.

A definition holds only what is written: the parameters that the type takes, the default as text,
and the properties other than those that belong to the key of the whole table.
-/

set_option autoImplicit false

namespace WarehouseSchema

/-- A type with the parameters it is spelled with. -/
structure TypeSpelling where
  type : DataType
  precision : Option UInt32
  scale : Option UInt32
  limit : Option UInt32
  collation : Option String
  deriving DecidableEq, Repr

namespace TypeSpelling

/-- The number that a parameter is, in decimal. -/
def parameter (n : UInt32) : String := n.toNat.repr

/-- Numbers between parentheses after a type, as far as there are any. -/
def size : Option UInt32 → Option UInt32 → String
  | some precision, some scale => "(" ++ parameter precision ++ "," ++ parameter scale ++ ")"
  | some precision, none => "(" ++ parameter precision ++ ")"
  | none, _ => ""

/-- The text of a type with its parameters. -/
def render (spelling : TypeSpelling) : String :=
  spelling.type.keyword ++ size spelling.precision spelling.scale ++ size spelling.limit none ++
    match spelling.collation with
    | some collation => " collate " ++ Quoted.literal collation
    | none => ""

end TypeSpelling

/-- How a number column counts by itself. -/
inductive IdentityClause where
  | bare
  | counting (seed increment : Int64)
  deriving DecidableEq, Repr

namespace IdentityClause

/-- The clause of an identity; a seed or an increment alone is not written. -/
def ofIdentity : Identity → IdentityClause
  | ⟨some seed, some increment⟩ => .counting seed increment
  | _ => .bare

/-- The text of the clause. -/
def render : IdentityClause → String
  | .bare => "identity"
  | .counting seed increment =>
    "identity(" ++ Text.integerText seed.toInt ++ "," ++ Text.integerText increment.toInt ++ ")"

end IdentityClause

/-- The text of a default literal, where the type of the column decides whether it is quoted. A
string that calls a function is written as it is. -/
def DataType.literalText (type : DataType) (value : Json) : String :=
  let family := type.family
  let written (text : String) : String :=
    if family.hasBareLiterals then text
    else if family = .boolean then
      match Keyword.truthValue? text with
      | some b => Keyword.ofBool b
      | none => Quoted.literal text
    else Quoted.literal text
  match value with
  | .string s => if Keyword.isFunctionCall s then s else written s
  | .bool b => if family.hasQuotedLiterals then written (Keyword.ofBool b) else Keyword.ofBool b
  | .number n => if family = .boolean then Keyword.ofBool !n.isZero else written value.compact
  | value => written value.compact

/-- The text of a default. -/
def ColumnDefault.render (type : DataType) : ColumnDefault → String
  | .null | .literal .null => "null"
  | .expression sql => sql
  | .literal value => type.literalText value

/-- What is written about a column after its name. -/
structure ColumnDefinition where
  spelling : TypeSpelling
  identity : Option IdentityClause
  nullable : Bool
  default : Option String
  properties : List String
  comment : Option String
  deriving DecidableEq, Repr

/-- The text of a definition. -/
def ColumnDefinition.render (definition : ColumnDefinition) : String :=
  let identity := match definition.identity with
    | some clause => " " ++ clause.render
    | none => ""
  let nullable := if definition.nullable then " null" else " not null"
  let default := match definition.default with
    | some text => " default " ++ text
    | none => ""
  let properties := String.join (definition.properties.map (" " ++ ·))
  let comment := match definition.comment with
    | some text => " comment " ++ Quoted.literal text
    | none => ""
  definition.spelling.render ++ identity ++ nullable ++ default ++ properties ++ comment

namespace Column

/-- The spelling of a type with those parameters of the column that the type takes. A number with a
precision always has a scale. -/
def spellingOf (column : Column) (type : DataType) : TypeSpelling :=
  match type with
  | .number =>
    ⟨type, column.precision, column.precision.map fun _ => column.scale.getD 0, none, none⟩
  | .varchar => ⟨type, none, none, column.limit, column.collation⟩
  | .binary | .varbinary => ⟨type, none, none, column.limit, none⟩
  | _ => ⟨type, if type.takesPrecision then column.precision else none, none, none, none⟩

/-- A type is spelled as itself. -/
theorem type_spellingOf (column : Column) (type : DataType) :
    (column.spellingOf type).type = type := by
  cases type <;> rfl

/-- The spelling of the column's type. -/
def spelling (column : Column) : Except SchemaError TypeSpelling :=
  column.dataType.map column.spellingOf

/-- The text of the column's default for a column of the given type. -/
def defaultText (column : Column) (type : DataType) : Option String :=
  column.default.map (·.render type)

/-- The definition of a column of the given type. -/
def definitionOf (column : Column) (type : DataType) : ColumnDefinition where
  spelling := column.spellingOf type
  identity := if type.supportsIdentity then column.identity.map .ofIdentity else none
  nullable := column.nullable
  default := column.defaultText type
  properties := column.properties.filter fun property => !Keyword.isPrimaryKey property
  comment := column.comment

/-- The definition of the column; its type must be known. -/
def definition (column : Column) : Except SchemaError ColumnDefinition :=
  column.dataType.map column.definitionOf

/-- A column of a known type has its definition. -/
theorem definition_of_type {column : Column} {type : DataType} (known : column.type = .ok type) :
    column.definition = .ok (column.definitionOf type) := by
  rw [definition, dataType, known]
  rfl

end Column

end WarehouseSchema
