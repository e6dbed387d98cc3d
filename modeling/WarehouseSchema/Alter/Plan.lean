import WarehouseSchema.Column.Definition
import WarehouseSchema.Key.Foreign
import WarehouseSchema.Key.Index

/-!
# Plans for altering a table

A plan is a list of changes to one table, each of which becomes a statement of its own, and a list
of statements that run after them. A change says what is altered, not how it is spelled; `render`
spells what follows the name of the table.
-/

set_option autoImplicit false

namespace WarehouseSchema

/-- A change to one column, of which a statement makes exactly one. -/
inductive ColumnChange where
  | setType (spelling : TypeSpelling)
  | setDefault (text : String)
  | dropDefault
  | setNotNull
  | dropNotNull
  | setComment (text : String)
  | unsetComment
  deriving DecidableEq, Repr

/-- The text of a change after the name of the column. -/
def ColumnChange.render : ColumnChange → String
  | .setType spelling => "set data type " ++ spelling.render
  | .setDefault text => "set default " ++ text
  | .dropDefault => "drop default"
  | .setNotNull => "set not null"
  | .dropNotNull => "drop not null"
  | .setComment text => "comment " ++ Quoted.literal text
  | .unsetComment => "unset comment"

/-- A change to a table. -/
inductive TableChange where
  | addColumn (name : String) (definition : ColumnDefinition)
  | renameColumn (source target : String)
  | dropColumn (name : String)
  | alterColumn (name : String) (change : ColumnChange)
  | addKey (clause : KeyClause)
  | addForeignKey (key : ForeignKey)
  | dropUnique (columns : List String)
  | dropConstraint (name : String)
  | dropForeignKey (columns : List String)
  | dropPrimaryKey
  | renameTable (name : String)
  /-- A change that is spelled by hand. -/
  | spelled (text : String)
  deriving DecidableEq, Repr

/-- The text of a change after the name of the table. -/
def TableChange.render : TableChange → String
  | .addColumn name definition => "add " ++ Quoted.identifier name ++ " " ++ definition.render
  | .renameColumn source target =>
    "rename column " ++ Quoted.identifier source ++ " to " ++ Quoted.identifier target
  | .dropColumn name => "drop column " ++ Quoted.identifier name
  | .alterColumn name change => "alter column " ++ Quoted.identifier name ++ " " ++ change.render
  | .addKey clause => "add " ++ clause.render
  | .addForeignKey key => "add " ++ key.render
  | .dropUnique columns => "drop unique (" ++ Quoted.identifiers columns ++ ")"
  | .dropConstraint name => "drop constraint " ++ Quoted.identifier name
  | .dropForeignKey columns => "drop foreign key (" ++ Quoted.identifiers columns ++ ")"
  | .dropPrimaryKey => "drop primary key"
  | .renameTable name => "rename to " ++ Quoted.identifier name
  | .spelled text => text

/-- A statement that runs after the changes of a plan. -/
inductive FollowUp where
  | dropTable (table : String)
  | commentOn (table text : String)
  /-- A statement that is spelled by hand. -/
  | spelled (text : String)
  deriving DecidableEq, Repr

/-- The text of the statement. -/
def FollowUp.render : FollowUp → String
  | .dropTable table => "drop table " ++ Quoted.identifier table
  | .commentOn table text =>
    "comment on table " ++ Quoted.identifier table ++ " is " ++ Quoted.literal text
  | .spelled text => text

/-- Changes to a table, and statements to run after them. -/
structure AlterPlan where
  changes : List TableChange
  followUps : List FollowUp
  deriving DecidableEq, Repr

namespace AlterPlan

/-- The plan that does nothing. -/
def empty : AlterPlan := ⟨[], []⟩

/-- The plan of the given changes. -/
def ofChanges (changes : List TableChange) : AlterPlan := ⟨changes, []⟩

/-- The plan of one change. -/
def ofChange (change : TableChange) : AlterPlan := ofChanges [change]

/-- The plan of one statement. -/
def ofFollowUp (followUp : FollowUp) : AlterPlan := ⟨[], [followUp]⟩

/-- One plan after another: all changes first, then all statements that follow them. -/
def append (first second : AlterPlan) : AlterPlan :=
  ⟨first.changes ++ second.changes, first.followUps ++ second.followUps⟩

instance : Append AlterPlan := ⟨append⟩

@[simp] theorem changes_append (first second : AlterPlan) :
    (first ++ second).changes = first.changes ++ second.changes := rfl

@[simp] theorem followUps_append (first second : AlterPlan) :
    (first ++ second).followUps = first.followUps ++ second.followUps := rfl

/-- Whether the plan does nothing. -/
def isEmpty (plan : AlterPlan) : Bool := plan.changes.isEmpty && plan.followUps.isEmpty

/-- The text of a change as a statement on a table. -/
def changeStatement (table : String) (change : TableChange) : String :=
  "alter table " ++ Quoted.identifier table ++ " " ++ change.render

/-- The statements of a plan for a table, in the order in which they run. -/
def statements (plan : AlterPlan) (table : String) : List String :=
  plan.changes.map (changeStatement table) ++ plan.followUps.map FollowUp.render

end AlterPlan

end WarehouseSchema
