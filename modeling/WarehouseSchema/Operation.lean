import WarehouseSchema.Alter.Builder
import WarehouseSchema.Alter.ColumnDiff
import WarehouseSchema.History
import WarehouseSchema.Insert
import WarehouseSchema.Metadata.Columns
import WarehouseSchema.Metadata.Keys
import WarehouseSchema.Metadata.Query
import WarehouseSchema.Session
import WarehouseSchema.Table.Creation

/-!
# Operations on a schema

What a caller can ask of a warehouse. An operation first refuses what it can refuse on its own, then
asks the warehouse what it has to know, and only then sends statements, in the order of its plan.
Nothing about the warehouse is kept from one operation to the next.
-/

set_option autoImplicit false

namespace WarehouseSchema

namespace Session

variable {σ : Type}

/-- The value of a computation that needs no connection. -/
def ofExcept {α : Type} : Except SchemaError α → Session σ α
  | .ok a => pure a
  | .error e => fail e

/-- Runs the statements of a plan for a table. -/
def alter (table : String) (plan : AlterPlan) : Session σ Unit :=
  executeAll (plan.statements table)

/-- Makes a step of a transaction. -/
def transaction (step : TransactionStep) : Session σ Unit := do
  note (.transaction step)
  discard (execute step.statement)

/-- Whether a table of this name is found. -/
def hasTable (table : String) : Session σ Bool :=
  return (← fetchRow (Metadata.showTables table)).isSome

/-- Creates a table. -/
def createTable (table : Table) : Session σ Unit := do
  let creation ← ofExcept table.creation
  discard (execute creation.render)

/-- Removes the rows of a table. -/
def truncateTable (table : String) : Session σ Unit :=
  discard (execute ("truncate table " ++ Quoted.identifier table))

/-- The columns of a table. -/
def columns (table : String) : Session σ (List Column) := do
  ofExcept (Metadata.columnsOf (← fetchAll (Metadata.showColumns table)))

/-- Whether a table has a column of exactly this name. -/
def hasColumn (table name : String) : Session σ Bool :=
  return (← columns table).any fun column => column.name == name

/-- Adds a column. -/
def addColumn (table : String) (column : Column) : Session σ Unit := do
  alter table (← ofExcept (AlterPlan.addColumn column))

/-- Gives a column another name; it must be there. -/
def renameColumn (table source target : String) : Session σ Unit := do
  if ← hasColumn table source then alter table (.renameColumn source target)
  else fail (.columnNotFound table source)

/-- Moves a column to a desired shape, the type of which must be known. -/
def changeColumn (table name : String) (desired : Column) : Session σ Unit := do
  discard (ofExcept desired.dataType)
  let live ← columns table
  alter table (← ofExcept (AlterPlan.changeColumn table live name desired))

/-- The unique constraints of a table. -/
def uniqueKeys (table : String) : Session σ (Metadata.KeyGroups String) := do
  ofExcept (Metadata.constraintKeys (← fetchAll (Metadata.showUniqueKeys table)))

/-- Whether a table has a unique constraint on exactly these columns in this order. -/
def hasIndex (table : String) (wanted : List String) : Session σ Bool :=
  return (← uniqueKeys table).any fun key => key.2 == wanted

/-- Whether a table has a unique constraint of this name. -/
def hasIndexNamed (table name : String) : Session σ Bool :=
  return (← uniqueKeys table).any fun key => key.1 == name

/-- Adds a unique index. -/
def addIndex (table : String) (index : Index) : Session σ Unit := do
  alter table (← ofExcept (AlterPlan.addIndex index))

/-- Whether a table has a primary key that matches. -/
def hasPrimaryKey (table : String) (wanted : List String) (constraint : Option String) :
    Session σ Bool := do
  let keys ← ofExcept (Metadata.constraintKeys (← fetchAll (Metadata.showPrimaryKeys table)))
  return Metadata.matchesKey keys wanted constraint

/-- Replaces the primary key of a table. -/
def changePrimaryKey (table : String) (choice : KeyChoice) : Session σ Unit := do
  let present ← hasPrimaryKey table [] none
  alter table (.changePrimaryKey present choice)

/-- Whether a table has a foreign key that matches. -/
def hasForeignKey (table : String) (wanted : List String) (constraint : Option String) :
    Session σ Bool := do
  let keys ← ofExcept (Metadata.foreignKeys (← fetchAll (Metadata.showImportedKeys table)))
  return Metadata.matchesKey keys wanted constraint

/-- Creates a database. -/
def createDatabase (name : String) : Session σ Unit :=
  discard (execute ("create database " ++ Quoted.identifier name))

/-- Whether a database of this name is found. -/
def hasDatabase (name : String) : Session σ Bool :=
  return (← fetchRow (Metadata.showDatabases name)).isSome

/-- Removes a database if there is one. -/
def dropDatabase (name : String) : Session σ Unit :=
  discard (execute ("drop database if exists " ++ Quoted.identifier name))

/-- Inserts rows by one statement; no rows are no statement. Where the connection simulates, the
statement is shown with its values in place. -/
def insertRows (table : String) (rows : List Row) : Session σ Unit := do
  if ← isSimulating then
    match ← ofExcept (Insert.inPlace table rows) with
    | some sql => showStatement sql
    | none => pure ()
  else
    match ← ofExcept (Insert.prepared table rows) with
    | some bound => discard (executeBound bound.sql bound.values)
    | none => pure ()

/-- The history of migrations, in the order that the settings require. The table of the history need
not exist before the first run, so a query that fails where the connection simulates is an empty
history. -/
def history : Session σ (List AppliedMigration) := do
  let settings ← settings
  let order ← ofExcept (settings.requireOrder.mapError .config)
  let sql := History.query settings.historyTable order
  match ← answerTo sql with
  | .ok rows => ofExcept (History.ofRows rows)
  | .error failure =>
    if ← isSimulating then return []
    else valueOf sql (.error failure)

end Session

/-- A declared type with the length that it takes. -/
structure SizedType where
  type : DataType
  limit : Option UInt32
  deriving DecidableEq, Repr

/-- The type that a name means, with a length if the type takes one. -/
def SizedType.resolve (name : String) (limit : Option UInt32) : Except SchemaError SizedType :=
  ((DataType.resolve name).mapError .unknownType).map fun type =>
    ⟨type, if type.takesLimit then limit else none⟩

/-- What a caller can ask for. -/
inductive Operation where
  | execute (sql : String)
  | hasTransactions
  | transaction (step : TransactionStep)
  | quoteTableName (name : String)
  | quoteColumnName (name : String)
  | sizedType (name : String) (limit : Option UInt32)
  | isValidColumnType (column : Column)
  | hasTable (table : String)
  | createTable (table : Table)
  | truncateTable (table : String)
  | renameTable (table name : String)
  | dropTable (table : String)
  | changeComment (table : String) (comment : Option String)
  | columns (table : String)
  | hasColumn (table name : String)
  | addColumn (table : String) (column : Column)
  | renameColumn (table source target : String)
  | changeColumn (table name : String) (desired : Column)
  | dropColumn (table name : String)
  | hasIndex (table : String) (columns : List String)
  | hasIndexNamed (table name : String)
  | addIndex (table : String) (index : Index)
  | dropIndex (table : String) (columns : List String)
  | dropIndexNamed (table name : String)
  | hasPrimaryKey (table : String) (columns : List String) (constraint : Option String)
  | changePrimaryKey (table : String) (choice : KeyChoice)
  /-- The choice of key columns is given by a loosely typed value. -/
  | changePrimaryKeyTo (table : String) (value : Json)
  | hasForeignKey (table : String) (columns : List String) (constraint : Option String)
  | addForeignKey (table : String) (key : ForeignKey)
  | dropForeignKey (table constraint : String)
  | dropForeignKeyOn (table : String) (columns : List String)
  | createDatabase (name : String)
  | hasDatabase (name : String)
  | dropDatabase (name : String)
  | insert (table : String) (row : Row)
  | insertRows (table : String) (rows : List Row)
  | history

/-- What an operation answers. -/
inductive Outcome where
  | done
  | affected (rows : Nat)
  | flag (value : Bool)
  | text (value : String)
  | sizedType (type : SizedType)
  | columns (columns : List Column)
  | history (entries : List AppliedMigration)

/-- Carries out an operation. -/
def Operation.perform {σ : Type} : Operation → Session σ Outcome
  | .execute sql => .affected <$> Session.execute sql
  | .hasTransactions => pure (.flag true)
  | .transaction step => (fun _ => .done) <$> Session.transaction step
  | .quoteTableName name => pure (.text (Quoted.identifier name))
  | .quoteColumnName name => pure (.text (Quoted.identifier name))
  | .sizedType name limit => .sizedType <$> Session.ofExcept (SizedType.resolve name limit)
  | .isValidColumnType column => pure (.flag (DataType.isDocumentedName column.typeName))
  | .hasTable table => .flag <$> Session.hasTable table
  | .createTable table => (fun _ => .done) <$> Session.createTable table
  | .truncateTable table => (fun _ => .done) <$> Session.truncateTable table
  | .renameTable table name => (fun _ => .done) <$> Session.alter table (.renameTable name)
  | .dropTable table => (fun _ => .done) <$> Session.alter table (.dropTable table)
  | .changeComment table comment =>
    (fun _ => .done) <$> Session.alter table (.changeComment table comment)
  | .columns table => .columns <$> Session.columns table
  | .hasColumn table name => .flag <$> Session.hasColumn table name
  | .addColumn table column => (fun _ => .done) <$> Session.addColumn table column
  | .renameColumn table source target =>
    (fun _ => .done) <$> Session.renameColumn table source target
  | .changeColumn table name desired =>
    (fun _ => .done) <$> Session.changeColumn table name desired
  | .dropColumn table name => (fun _ => .done) <$> Session.alter table (.dropColumn name)
  | .hasIndex table wanted => .flag <$> Session.hasIndex table wanted
  | .hasIndexNamed table name => .flag <$> Session.hasIndexNamed table name
  | .addIndex table index => (fun _ => .done) <$> Session.addIndex table index
  | .dropIndex table dropped => (fun _ => .done) <$> Session.alter table (.dropIndex dropped)
  | .dropIndexNamed table name =>
    (fun _ => .done) <$> Session.alter table (.dropConstraint name)
  | .hasPrimaryKey table wanted constraint =>
    .flag <$> Session.hasPrimaryKey table wanted constraint
  | .changePrimaryKey table choice =>
    (fun _ => .done) <$> Session.changePrimaryKey table choice
  | .changePrimaryKeyTo table value => do
    let choice ← Session.ofExcept (KeyChoice.ofJson value)
    Session.changePrimaryKey table choice
    return .done
  | .hasForeignKey table wanted constraint =>
    .flag <$> Session.hasForeignKey table wanted constraint
  | .addForeignKey table key => (fun _ => .done) <$> Session.alter table (.addForeignKey key)
  | .dropForeignKey table constraint =>
    (fun _ => .done) <$> Session.alter table (.dropConstraint constraint)
  | .dropForeignKeyOn table dropped =>
    (fun _ => .done) <$> Session.alter table (.dropForeignKey dropped)
  | .createDatabase name => (fun _ => .done) <$> Session.createDatabase name
  | .hasDatabase name => .flag <$> Session.hasDatabase name
  | .dropDatabase name => (fun _ => .done) <$> Session.dropDatabase name
  | .insert table row => (fun _ => .done) <$> Session.insertRows table [row]
  | .insertRows table rows => (fun _ => .done) <$> Session.insertRows table rows
  | .history => .history <$> Session.history

/-- Carries out operations one after another, each from the state in which the one before it left
the connection, also where that one failed. -/
def Operation.performAll {σ : Type} (surroundings : Surroundings σ) :
    List Operation → σ → List (Report σ Outcome)
  | [], _ => []
  | operation :: rest, state =>
    let report := operation.perform.run surroundings state
    report :: performAll surroundings rest report.state

end WarehouseSchema
