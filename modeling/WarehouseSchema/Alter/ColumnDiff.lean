import WarehouseSchema.Alter.Plan

/-!
# Moving a column to a desired shape

The changes that lead from a live column to a desired one, in a fixed order: the type, the default,
whether nulls are allowed, the comment, the length or collation of a text, the precision of a
number, and last a new name. Each stands only where the two columns differ in it, and all but the
last address the column by its old name.

Two types count as equal where the warehouse keeps them as the same one. A length, collation or
precision that is not desired leaves the live one alone, and a number without a desired scale keeps
its own.
-/

set_option autoImplicit false

namespace WarehouseSchema

/-- A column together with the type its declaration means. -/
structure TypedColumn where
  column : Column
  type : DataType

namespace TypedColumn

/-- The text of the column's default. -/
def defaultText (typed : TypedColumn) : Option String := typed.column.defaultText typed.type

/-- The spelling of the column's type. -/
def spelling (typed : TypedColumn) : TypeSpelling := typed.column.spellingOf typed.type

end TypedColumn

namespace ColumnDiff

/-- A change of the type, where the warehouse keeps the two types apart. -/
def typeChange (current desired : TypedColumn) : List ColumnChange :=
  if current.type.stored = desired.type.stored then [] else [.setType desired.spelling]

/-- A change of the default, where the two are not written alike. -/
def defaultChange (current desired : TypedColumn) : List ColumnChange :=
  if current.defaultText = desired.defaultText then []
  else
    match desired.defaultText with
    | some text => [.setDefault text]
    | none => [.dropDefault]

/-- A change of whether nulls are allowed. -/
def nullChange (current desired : TypedColumn) : List ColumnChange :=
  if current.column.nullable = desired.column.nullable then []
  else if desired.column.nullable then [.dropNotNull]
  else [.setNotNull]

/-- A change of the comment. -/
def commentChange (current desired : TypedColumn) : List ColumnChange :=
  if current.column.comment = desired.column.comment then []
  else
    match desired.column.comment with
    | some text => [.setComment text]
    | none => [.unsetComment]

/-- Whether a desired parameter differs from the live one; one that is not desired does not. -/
def differs {α : Type} [DecidableEq α] (desired current : Option α) : Bool :=
  desired.isSome && desired != current

/-- A change of the length or the collation of a text. -/
def textChange (current desired : TypedColumn) : List ColumnChange :=
  if current.type = .varchar ∧ desired.type = .varchar ∧
      (differs desired.column.limit current.column.limit ||
        differs desired.column.collation current.column.collation) then
    [.setType desired.spelling]
  else []

/-- A change of the precision or the scale of a number. -/
def numberChange (current desired : TypedColumn) : List ColumnChange :=
  if current.type = .number ∧ desired.type = .number then
    match desired.column.precision with
    | none => []
    | some precision =>
      let scale := (desired.column.scale.or current.column.scale).getD 0
      if some precision = current.column.precision ∧ some scale = current.column.scale then []
      else [.setType ⟨.number, some precision, some scale, none, none⟩]
  else []

/-- Every change to the column but its name, in order. -/
def changes (current desired : TypedColumn) : List ColumnChange :=
  typeChange current desired ++ defaultChange current desired ++ nullChange current desired ++
    commentChange current desired ++ textChange current desired ++ numberChange current desired

/-- The plan that moves the column of a name to a desired shape. -/
def plan (name : String) (current desired : TypedColumn) : AlterPlan :=
  .ofChanges <|
    (changes current desired).map (.alterColumn name) ++
      if desired.column.name = name then [] else [.renameColumn name desired.column.name]

end ColumnDiff

/-- The first live column of a name. -/
def Column.find? (columns : List Column) (name : String) : Option Column :=
  List.find? (fun column => column.name == name) columns

/-- The column together with its type. -/
def Column.typed (column : Column) : Except SchemaError TypedColumn :=
  column.dataType.map fun type => ⟨column, type⟩

namespace AlterPlan

/-- The plan that moves the live column of a name to a desired shape. The column must exist, and the
type of the live column and then of the desired one must be known. -/
def changeColumn (table : String) (live : List Column) (name : String) (desired : Column) :
    Except SchemaError AlterPlan :=
  match Column.find? live name with
  | none => .error (.columnNotFound table name)
  | some current => do
    let current ← current.typed
    let desired ← desired.typed
    pure (ColumnDiff.plan name current desired)

end AlterPlan

end WarehouseSchema
