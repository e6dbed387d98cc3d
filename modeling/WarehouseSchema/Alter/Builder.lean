import WarehouseSchema.Alter.Plan
import WarehouseSchema.Key.Choice

/-!
# Plans for single changes

One plan for each change that a caller can ask for, apart from the change of a column's shape.
-/

set_option autoImplicit false

namespace WarehouseSchema.AlterPlan

/-- Adds a column, the type of which must be known. -/
def addColumn (column : Column) : Except SchemaError AlterPlan :=
  column.definition.map fun definition => ofChange (.addColumn column.name definition)

/-- Gives a column another name. -/
def renameColumn (source target : String) : AlterPlan := ofChange (.renameColumn source target)

/-- Removes a column. -/
def dropColumn (name : String) : AlterPlan := ofChange (.dropColumn name)

/-- Adds an index; only a unique one can be added to a table that exists. -/
def addIndex (index : Index) : Except SchemaError AlterPlan :=
  match index.kind with
  | .unique => .ok (ofChange (.addKey (.ofIndex .unique index)))
  | kind => .error (.unsupportedIndex kind.name)

/-- Removes the unique constraint on the given columns. -/
def dropIndex (columns : List String) : AlterPlan := ofChange (.dropUnique columns)

/-- Removes the constraint of a name. -/
def dropConstraint (name : String) : AlterPlan := ofChange (.dropConstraint name)

/-- Adds a foreign key. -/
def addForeignKey (key : ForeignKey) : AlterPlan := ofChange (.addForeignKey key)

/-- Removes the foreign key on the given columns. -/
def dropForeignKey (columns : List String) : AlterPlan := ofChange (.dropForeignKey columns)

/-- Removes a table. -/
def dropTable (table : String) : AlterPlan := ofFollowUp (.dropTable table)

/-- Gives the table another name. -/
def renameTable (name : String) : AlterPlan := ofChange (.renameTable name)

/-- Replaces the primary key: the present one is dropped if there is one, and the chosen columns
become the new one unless none is chosen. -/
def changePrimaryKey (present : Bool) (choice : KeyChoice) : AlterPlan :=
  ofChanges <|
    (if present then [.dropPrimaryKey] else []) ++
      if choice.isEmpty then [] else [.addKey (.unnamed .primary choice.columns)]

/-- Sets the comment on a table; no comment is the empty one. -/
def changeComment (table : String) (comment : Option String) : AlterPlan :=
  ofFollowUp (.commentOn table (comment.getD ""))

end WarehouseSchema.AlterPlan
