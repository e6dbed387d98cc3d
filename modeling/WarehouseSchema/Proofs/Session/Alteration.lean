import WarehouseSchema.Proofs.Session.Faults
import WarehouseSchema.Proofs.Session.Refusal

/-!
# What is planned apart from what is sent

An operation that alters the schema makes a plan, a list of statements, and sends it. Some plans
depend on what the warehouse holds, and then one question comes before them. `Alteration` holds the
question and the plan as data; `Operation.alteration?` gives them for every operation that alters
the schema, and `perform_of_alteration?` says that the operation does nothing but ask, plan and
send.
-/

set_option autoImplicit false

namespace WarehouseSchema

/-- A way to alter the schema: the query that is asked first, if there is one, and the statements
that are planned with the rows of the answer. Where nothing is asked there are no rows. -/
structure Alteration where
  question : Option String
  plan : List Row → Except SchemaError (List String)

namespace Alteration

/-- Sends statements that are known beforehand. -/
def sending (statements : List String) : Alteration := ⟨none, fun _ => .ok statements⟩

/-- Alters a table by a plan that is known beforehand. -/
def altering (table : String) (plan : AlterPlan) : Alteration := sending (plan.statements table)

/-- Gives a column another name if the table has it. -/
def renamingColumn (table source target : String) : Alteration where
  question := some (Metadata.showColumns table)
  plan rows := do
    let live ← Metadata.columnsOf rows
    if live.any fun column => column.name == source then
      pure ((AlterPlan.renameColumn source target).statements table)
    else .error (.columnNotFound table source)

/-- Moves a column from the shape that the table gives it to a desired one. -/
def reshapingColumn (table name : String) (desired : Column) : Alteration where
  question := some (Metadata.showColumns table)
  plan rows := do
    let live ← Metadata.columnsOf rows
    let plan ← AlterPlan.changeColumn table live name desired
    pure (plan.statements table)

/-- Replaces the primary key that the table has, if it has one. -/
def replacingKey (table : String) (choice : KeyChoice) : Alteration where
  question := some (Metadata.showPrimaryKeys table)
  plan rows := do
    let keys ← Metadata.constraintKeys rows
    pure ((AlterPlan.changePrimaryKey (Metadata.matchesKey keys [] none) choice).statements table)

variable {σ : Type}

/-- The rows that the connection answers with, and the state it is left in. -/
def Answered (alteration : Alteration) (connection : Connection σ) (state : σ) (rows : List Row)
    (start : σ) : Prop :=
  match alteration.question with
  | none => rows = [] ∧ start = state
  | some sql => connection.fetchAll sql state = (.ok rows, start)

/-- The statements that are planned, and the state in which the first of them is sent. -/
def Plans (alteration : Alteration) (connection : Connection σ) (state : σ)
    (statements : List String) (start : σ) : Prop :=
  ∃ rows, alteration.Answered connection state rows start ∧ alteration.plan rows = .ok statements

/-- Plans with the rows of the answer, and sends what is planned. -/
def send (alteration : Alteration) (rows : List Row) : Session σ Unit := do
  Session.executeAll (← Session.ofExcept (alteration.plan rows))

/-- Asks, plans and sends. -/
def carryOut (alteration : Alteration) : Session σ Unit :=
  match alteration.question with
  | none => alteration.send []
  | some sql => Session.fetchAll sql >>= fun rows => alteration.send rows

end Alteration

/-- How an operation alters the schema, if it does, or why it refuses to before anything is
asked. -/
def Operation.alteration? : Operation → Option (Except SchemaError Alteration)
  | .createTable table => some (table.creation.map fun creation => .sending [creation.render])
  | .truncateTable table => some (.ok (.sending ["truncate table " ++ Quoted.identifier table]))
  | .renameTable table name => some (.ok (.altering table (.renameTable name)))
  | .dropTable table => some (.ok (.altering table (.dropTable table)))
  | .changeComment table comment => some (.ok (.altering table (.changeComment table comment)))
  | .addColumn table column => some ((AlterPlan.addColumn column).map (.altering table))
  | .renameColumn table source target => some (.ok (.renamingColumn table source target))
  | .changeColumn table name desired =>
    some (desired.dataType.map fun _ => .reshapingColumn table name desired)
  | .dropColumn table name => some (.ok (.altering table (.dropColumn name)))
  | .addIndex table index => some ((AlterPlan.addIndex index).map (.altering table))
  | .dropIndex table dropped => some (.ok (.altering table (.dropIndex dropped)))
  | .dropIndexNamed table name => some (.ok (.altering table (.dropConstraint name)))
  | .changePrimaryKey table choice => some (.ok (.replacingKey table choice))
  | .changePrimaryKeyTo table value => some ((KeyChoice.ofJson value).map (.replacingKey table))
  | .addForeignKey table key => some (.ok (.altering table (.addForeignKey key)))
  | .dropForeignKey table constraint => some (.ok (.altering table (.dropConstraint constraint)))
  | .dropForeignKeyOn table dropped => some (.ok (.altering table (.dropForeignKey dropped)))
  | .createDatabase name => some (.ok (.sending ["create database " ++ Quoted.identifier name]))
  | .dropDatabase name =>
    some (.ok (.sending ["drop database if exists " ++ Quoted.identifier name]))
  | _ => none

namespace Session

variable {σ α β : Type}

/-- One statement is sent like any other. -/
theorem executeAll_singleton (sql : String) :
    (executeAll [sql] : Session σ Unit) = discard (execute sql) := by
  simp [executeAll, Functor.discard]

/-- What is made of a computed value may as well be computed with it. -/
theorem ofExcept_map_bind {γ : Type} (f : α → β) (value : Except SchemaError α)
    (next : β → Session σ γ) :
    (ofExcept (value.map f) >>= next : Session σ γ) = ofExcept value >>= fun a => next (f a) := by
  cases value <;> rfl

/-- A computation in two parts may be made in two steps. -/
theorem ofExcept_bind (value : Except SchemaError α) (next : α → Except SchemaError β) :
    (ofExcept (value >>= next) : Session σ β) = ofExcept value >>= fun a => ofExcept (next a) := by
  cases value <;> rfl

/-- To carry out statements is to send them. -/
theorem carryOut_sending (statements : List String) :
    ((Alteration.sending statements).carryOut : Session σ Unit) = executeAll statements := rfl

/-- A column is renamed after the columns were read. -/
theorem carryOut_renamingColumn (table source target : String) :
    ((Alteration.renamingColumn table source target).carryOut : Session σ Unit) =
      renameColumn table source target := by
  simp only [Alteration.carryOut, Alteration.send, Alteration.renamingColumn, renameColumn,
    hasColumn, columns, ofExcept_bind, bind_assoc, pure_bind]
  congr 1
  funext rows
  congr 1
  funext live
  split <;> rfl

/-- A column is reshaped after its desired type was found known and the columns were read. -/
theorem carryOut_reshapingColumn (table name : String) (desired : Column) :
    (discard (ofExcept desired.dataType) >>= fun _ =>
      (Alteration.reshapingColumn table name desired).carryOut : Session σ Unit) =
      changeColumn table name desired := by
  simp only [Alteration.carryOut, Alteration.send, Alteration.reshapingColumn, changeColumn,
    columns, ofExcept_bind, bind_assoc]
  rfl

/-- A key is replaced after the present one was read. -/
theorem carryOut_replacingKey (table : String) (choice : KeyChoice) :
    ((Alteration.replacingKey table choice).carryOut : Session σ Unit) =
      changePrimaryKey table choice := by
  simp only [Alteration.carryOut, Alteration.send, Alteration.replacingKey, changePrimaryKey,
    hasPrimaryKey, ofExcept_bind, bind_assoc, pure_bind]
  rfl

theorem carryOut_sending_singleton (sql : String) :
    ((Alteration.sending [sql]).carryOut : Session σ Unit) = discard (execute sql) := by
  rw [carryOut_sending, executeAll_singleton]

end Session

namespace Operation

/-- An operation that alters the schema does nothing but carry out its alteration. -/
theorem perform_of_alteration? {σ : Type} {operation : Operation}
    {planning : Except SchemaError Alteration} (alters : operation.alteration? = some planning) :
    (operation.perform : Session σ Outcome) =
      (fun _ => .done) <$> (Session.ofExcept planning >>= Alteration.carryOut) := by
  have done {first second : Session σ Unit} (same : first = second) :
      (fun _ => Outcome.done) <$> first = (fun _ => Outcome.done) <$> second := by rw [same]
  -- Where nothing is asked and nothing can be refused, both sides unfold to the same run.
  cases operation with
  | createTable table =>
    obtain rfl := Option.some.inj alters
    apply done
    simp only [Session.createTable, Session.ofExcept_map_bind, Session.carryOut_sending_singleton]
  | truncateTable table =>
    cases alters
    exact done (Session.carryOut_sending_singleton _).symm
  | renameTable table name => cases alters; rfl
  | dropTable table => cases alters; rfl
  | changeComment table comment => cases alters; rfl
  | addColumn table column =>
    obtain rfl := Option.some.inj alters
    apply done
    rw [Session.ofExcept_map_bind]
    rfl
  | renameColumn table source target =>
    cases alters
    exact done (Session.carryOut_renamingColumn table source target).symm
  | changeColumn table name desired =>
    obtain rfl := Option.some.inj alters
    apply done
    rw [← Session.carryOut_reshapingColumn, Session.ofExcept_map_bind, Session.discard_eq_bind,
      bind_assoc]
    rfl
  | dropColumn table name => cases alters; rfl
  | addIndex table index =>
    obtain rfl := Option.some.inj alters
    apply done
    rw [Session.ofExcept_map_bind]
    rfl
  | dropIndex table dropped => cases alters; rfl
  | dropIndexNamed table name => cases alters; rfl
  | changePrimaryKey table choice =>
    cases alters
    exact done (Session.carryOut_replacingKey table choice).symm
  | changePrimaryKeyTo table value =>
    obtain rfl := Option.some.inj alters
    rw [Session.ofExcept_map_bind, map_bind]
    simp only [Session.carryOut_replacingKey]
    rfl
  | addForeignKey table key => cases alters; rfl
  | dropForeignKey table constraint => cases alters; rfl
  | dropForeignKeyOn table dropped => cases alters; rfl
  | createDatabase name =>
    cases alters
    exact done (Session.carryOut_sending_singleton _).symm
  | dropDatabase name =>
    cases alters
    exact done (Session.carryOut_sending_singleton _).symm
  | _ => cases alters

/-- Neither a refusal nor a plan that cannot be made is a failure of the connection. -/
theorem failsOnly_planning {operation : Operation} {planning : Except SchemaError Alteration}
    (alters : operation.alteration? = some planning) (rows : List Row) :
    FailsOnly (fun e => e.isExecution = false)
      (planning.bind fun alteration => alteration.plan rows) := by
  -- What is given is checked first, then the rows of an answer; the rest is written without fail.
  cases operation with
  | createTable table =>
    obtain rfl := Option.some.inj alters
    exact (FailsOnly.creation (fun _ => rfl) (fun _ => rfl) (fun _ => rfl) table).map_bind
      fun creation => .ok _
  | addColumn table column =>
    obtain rfl := Option.some.inj alters
    exact ((FailsOnly.definition (fun _ => rfl) column).map _).map_bind fun plan => .ok _
  | renameColumn table source target =>
    cases alters
    refine (FailsOnly.columnsOf (fun _ => rfl) (fun _ => rfl) rows).bind fun live => ?_
    split
    · exact .ok _
    · exact .error rfl
  | changeColumn table name desired =>
    obtain rfl := Option.some.inj alters
    refine (FailsOnly.unknownType (fun _ => rfl) desired.type).map_bind fun type => ?_
    exact (FailsOnly.columnsOf (fun _ => rfl) (fun _ => rfl) rows).bind fun live =>
      (FailsOnly.changeColumn (fun _ _ => rfl) (fun _ => rfl) table live name desired).bind
        fun plan => .ok _
  | addIndex table index =>
    obtain rfl := Option.some.inj alters
    exact (FailsOnly.addIndex (fun _ => rfl) index).map_bind fun plan => .ok _
  | changePrimaryKey table choice =>
    cases alters
    exact (FailsOnly.keysOf (fun _ => rfl) _ _ rows).bind fun keys => .ok _
  | changePrimaryKeyTo table value =>
    obtain rfl := Option.some.inj alters
    refine (FailsOnly.keyChoice (fun _ => rfl) value).map_bind fun choice => ?_
    exact (FailsOnly.keysOf (fun _ => rfl) _ _ rows).bind fun keys => .ok _
  | truncateTable table => cases alters; exact .ok _
  | renameTable table name => cases alters; exact .ok _
  | dropTable table => cases alters; exact .ok _
  | changeComment table comment => cases alters; exact .ok _
  | dropColumn table name => cases alters; exact .ok _
  | dropIndex table dropped => cases alters; exact .ok _
  | dropIndexNamed table name => cases alters; exact .ok _
  | addForeignKey table key => cases alters; exact .ok _
  | dropForeignKey table constraint => cases alters; exact .ok _
  | dropForeignKeyOn table dropped => cases alters; exact .ok _
  | createDatabase name => cases alters; exact .ok _
  | dropDatabase name => cases alters; exact .ok _
  | _ => cases alters

end Operation

end WarehouseSchema
