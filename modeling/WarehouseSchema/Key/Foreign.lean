import WarehouseSchema.Quoted

/-!
# Foreign keys

A foreign key refers from columns of one table to columns of another. The warehouse does not enforce
what should happen on an update or a deletion, so both are kept and neither is written.
-/

set_option autoImplicit false

namespace WarehouseSchema

/-- A foreign key of a table. -/
structure ForeignKey where
  columns : List String
  referencedTable : String
  referencedColumns : List String
  name : Option String
  onUpdate : Option String
  onDelete : Option String
  deriving DecidableEq, Repr

namespace ForeignKey

/-- A foreign key without a name. -/
def referring (columns : List String) (referencedTable : String) (referencedColumns : List String) :
    ForeignKey :=
  ⟨columns, referencedTable, referencedColumns, none, none, none⟩

/-- The foreign key under a name. -/
def named (key : ForeignKey) (name : String) : ForeignKey := { key with name := some name }

/-- The foreign key with an action on updates. -/
def withUpdateAction (key : ForeignKey) (action : String) : ForeignKey :=
  { key with onUpdate := some action }

/-- The foreign key with an action on deletions. -/
def withDeleteAction (key : ForeignKey) (action : String) : ForeignKey :=
  { key with onDelete := some action }

/-- The text of a foreign key clause. -/
def render (key : ForeignKey) : String :=
  let constraint := match key.name with
    | some name => "constraint " ++ Quoted.identifier name ++ " "
    | none => ""
  constraint ++ "foreign key (" ++ Quoted.identifiers key.columns ++ ") references " ++
    Quoted.identifier key.referencedTable ++ "(" ++ Quoted.identifiers key.referencedColumns ++ ")"

end ForeignKey

end WarehouseSchema
