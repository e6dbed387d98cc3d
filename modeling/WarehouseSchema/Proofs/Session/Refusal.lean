import WarehouseSchema.Proofs.Session.Faults

/-!
# What an operation has done when it ends in an error

An operation refuses what it can refuse on its own, then asks the warehouse, then sends its
statements. So an error that is not a failure of the connection is raised before the first
statement, and an error over the arguments or the settings alone is raised before the first
question.

## What is proved

`sends_nothing_unless_execution` says this of every operation, over every connection. The three
stages are three properties of activities: `Silent` makes no call, `AsksAtMost` makes no call but
queries, and `Committed` can no longer refuse. `Orderly` is what an operation has to be, and a bind
of a stage and an orderly rest is orderly.

The connection is not asked to behave: a query may fail, answer with rows that cannot be read, and
change what the next one answers.
-/

set_option autoImplicit false

namespace WarehouseSchema

/-- Whether a call asks and changes nothing. -/
def Call.asks : Call → Bool
  | .query _ => true
  | _ => false

namespace SchemaError

/-- Whether the connection failed. -/
def isExecution : SchemaError → Bool
  | .execution _ => true
  | _ => false

/-- Whether an operation refuses over its arguments or its settings alone. -/
def isRefusal : SchemaError → Bool
  | .invalidArgument _ | .unsupportedIndex _ | .config .missingOrder => true
  | _ => false

/-- A failure of the connection refuses nothing. -/
theorem isRefusal_of_isExecution {e : SchemaError} (failed : e.isExecution = true) :
    e.isRefusal = false := by
  cases e with
  | execution failure => rfl
  | _ => cases failed

end SchemaError

/-! ## Computations that refuse nothing -/

/-- A computation the errors of which are over what the warehouse holds. -/
def Unrefusing {α : Type} (value : Except SchemaError α) : Prop :=
  ∀ e, value = .error e → e.isRefusal = false

/-- What a report of columns is read with refuses nothing. -/
theorem unrefusing_columnsOf (rows : List Row) : Unrefusing (Metadata.columnsOf rows) :=
  FailsOnly.columnsOf (fun _ => rfl) (fun _ => rfl) rows

/-- Rows of keys are refused for what they lack, never for what was asked. -/
theorem unrefusing_keysOf (nameField columnField : String) (rows : List Row) :
    Unrefusing (Metadata.keysOf nameField columnField rows) :=
  FailsOnly.keysOf (fun _ => rfl) nameField columnField rows

/-- A history is refused for its rows alone. -/
theorem unrefusing_ofRows (rows : List Row) : Unrefusing (History.ofRows rows) :=
  FailsOnly.ofRows (fun _ => rfl) rows

/-- A column that is missing and a type that is unknown are matters of the table, not of the
request. -/
theorem unrefusing_changeColumn (table : String) (live : List Column) (name : String)
    (desired : Column) : Unrefusing (AlterPlan.changeColumn table live name desired) :=
  FailsOnly.changeColumn (fun _ _ => rfl) (fun _ => rfl) table live name desired

namespace Session

variable {σ α β : Type}

/-! ## Stages -/

/-- The activity makes no call. -/
def Silent (activity : Session σ α) : Prop :=
  ∀ surroundings state, (activity.run surroundings state).calls = []

/-- The activity makes no call but queries. -/
def AsksAtMost (activity : Session σ α) : Prop :=
  ∀ surroundings state, ∀ call ∈ (activity.run surroundings state).calls, call.asks = true

/-- Only the connection makes the activity fail. -/
def FailsInExecution (activity : Session σ α) : Prop :=
  ∀ surroundings state e, (activity.run surroundings state).result = .error e →
    e.isExecution = true

/-- The activity refuses nothing any more, and where the connection does not make it fail it fails
before its first statement. -/
def Committed (activity : Session σ α) : Prop :=
  ∀ surroundings state e, (activity.run surroundings state).result = .error e →
    e.isRefusal = false ∧
      (e.isExecution = false →
        ∀ call ∈ (activity.run surroundings state).calls, call.asks = true)

/-- The activity makes no call but queries and refuses nothing any more. -/
structure Reading (activity : Session σ α) : Prop where
  asks : AsksAtMost activity
  committed : Committed activity

/-- Where the connection does not make the activity fail it fails before its first statement, and
where it refuses it has not made a call. -/
def Orderly (activity : Session σ α) : Prop :=
  ∀ surroundings state e, (activity.run surroundings state).result = .error e →
    (e.isExecution = false →
        ∀ call ∈ (activity.run surroundings state).calls, call.asks = true) ∧
      (e.isRefusal = true → (activity.run surroundings state).calls = [])

/-- What makes no call makes none but queries. -/
theorem Silent.asksAtMost {activity : Session σ α} (silent : Silent activity) :
    AsksAtMost activity := by
  intro surroundings state call mem
  rw [silent surroundings state] at mem
  cases mem

/-- What makes no call may fail in any way. -/
theorem Silent.orderly {activity : Session σ α} (silent : Silent activity) : Orderly activity :=
  fun surroundings state _ _ =>
    ⟨fun _ => silent.asksAtMost surroundings state, fun _ => silent surroundings state⟩

/-- What only the connection makes fail refuses nothing. -/
theorem FailsInExecution.committed {activity : Session σ α} (fails : FailsInExecution activity) :
    Committed activity := by
  intro surroundings state e failed
  have execution := fails surroundings state e failed
  refine ⟨SchemaError.isRefusal_of_isExecution execution, fun other => ?_⟩
  rw [execution] at other
  cases other

/-- What refuses nothing any more is orderly whatever calls it has made. -/
theorem Committed.orderly {activity : Session σ α} (committed : Committed activity) :
    Orderly activity := by
  intro surroundings state e failed
  obtain ⟨noRefusal, before⟩ := committed surroundings state e failed
  refine ⟨before, fun refused => ?_⟩
  rw [noRefusal] at refused
  cases refused

/-! ## One stage after another -/

/-- What makes no call may come before anything. -/
theorem Silent.bind {first : Session σ α} {next : α → Session σ β} (silent : Silent first)
    (rest : ∀ a, Orderly (next a)) : Orderly (first >>= next) := by
  intro surroundings state e failed
  have quiet := silent surroundings state
  obtain ⟨_, after, events, ran, bound⟩ | ⟨a, after, events, ran, bound⟩ :=
    run_bind_cases first next surroundings state <;> rw [ran, Report.calls_mk] at quiet
  · rw [bound, Report.calls_mk, quiet]
    exact ⟨fun _ _ mem => absurd mem List.not_mem_nil, fun _ => rfl⟩
  · rw [bound, Report.result_after] at failed
    rw [bound, Report.calls_after, quiet]
    exact rest a surroundings after e failed

/-- What asks may come before what refuses nothing any more. -/
theorem Reading.bind {first : Session σ α} {next : α → Session σ β} (reading : Reading first)
    (rest : ∀ a, Committed (next a)) : Committed (first >>= next) := by
  intro surroundings state e failed
  have queries := reading.asks surroundings state
  obtain ⟨cause, after, events, ran, bound⟩ | ⟨a, after, events, ran, bound⟩ :=
    run_bind_cases first next surroundings state <;> rw [ran, Report.calls_mk] at queries
  · rw [bound] at failed
    cases failed
    have same := reading.committed surroundings state e (by rw [ran]; rfl)
    rw [bound, Report.calls_mk]
    exact ⟨same.1, fun _ => queries⟩
  · rw [bound, Report.result_after] at failed
    obtain ⟨noRefusal, before⟩ := rest a surroundings after e failed
    rw [bound, Report.calls_after]
    refine ⟨noRefusal, fun other call mem => ?_⟩
    rcases List.mem_append.1 mem with mem | mem
    · exact queries call mem
    · exact before other call mem

/-- Activities that only the connection makes fail make up one of that kind. -/
theorem FailsInExecution.bind {first : Session σ α} {next : α → Session σ β}
    (fails : FailsInExecution first) (rest : ∀ a, FailsInExecution (next a)) :
    FailsInExecution (first >>= next) := by
  intro surroundings state e failed
  obtain ⟨cause, after, events, ran, bound⟩ | ⟨a, after, events, ran, bound⟩ :=
    run_bind_cases first next surroundings state <;> rw [bound] at failed
  · cases failed
    exact fails surroundings state e (by rw [ran]; rfl)
  · exact rest a surroundings after e failed

/-- What is made of the result changes neither the calls nor the failures. -/
theorem Orderly.map {activity : Session σ α} (orderly : Orderly activity) (f : α → β) :
    Orderly (f <$> activity) := by
  intro surroundings state e failed
  rw [map_eq_bind] at failed ⊢
  obtain ⟨_, after, events, ran, bound⟩ | ⟨a, after, events, ran, bound⟩ :=
    run_bind_cases activity (fun a => pure (f a)) surroundings state <;> rw [bound] at failed
  · cases failed
    have same := orderly surroundings state e (by rw [ran]; rfl)
    rw [ran] at same
    rw [bound]
    exact same
  · cases failed

/-- Queries after queries are queries. -/
theorem AsksAtMost.seq {first : Session σ α} {next : α → Session σ β} (asks : AsksAtMost first)
    (rest : ∀ a, AsksAtMost (next a)) : AsksAtMost (first >>= next) := by
  intro surroundings state call mem
  have queries := asks surroundings state
  obtain ⟨_, after, events, ran, bound⟩ | ⟨a, after, events, ran, bound⟩ :=
    run_bind_cases first next surroundings state <;> rw [ran, Report.calls_mk] at queries
  · rw [bound] at mem
    exact queries call mem
  · rw [bound, Report.calls_after] at mem
    rcases List.mem_append.1 mem with mem | mem
    · exact queries call mem
    · exact rest a surroundings after call mem

/-! ## The steps that operations are made of -/

theorem silent_pure (a : α) : Silent (pure a : Session σ α) := fun _ _ => rfl

theorem silent_fail (e : SchemaError) : Silent (fail e : Session σ α) := fun _ _ => rfl

theorem silent_note (note : Note) : Silent (Session.note note : Session σ Unit) := fun _ _ => rfl

theorem silent_isSimulating : Silent (isSimulating : Session σ Bool) := fun _ _ => rfl

theorem silent_settings : Silent (settings : Session σ Settings) := fun _ _ => rfl

/-- What is computed without the connection makes no call. -/
theorem silent_ofExcept (value : Except SchemaError α) : Silent (ofExcept value : Session σ α) := by
  cases value with
  | error e => exact silent_fail e
  | ok a => exact silent_pure a

/-- To look at an answer is not to ask again. -/
theorem silent_valueOf (sql : String) (answer : Answer α) :
    Silent (valueOf sql answer : Session σ α) := by
  cases answer with
  | error failure => exact silent_fail _
  | ok a => exact silent_pure a

theorem fails_pure (a : α) : FailsInExecution (pure a : Session σ α) := by
  intro _ _ _ failed
  cases failed

theorem fails_note (note : Note) : FailsInExecution (Session.note note : Session σ Unit) := by
  intro _ _ _ failed
  cases failed

theorem fails_isSimulating : FailsInExecution (isSimulating : Session σ Bool) := by
  intro _ _ _ failed
  cases failed

/-- A call itself does not fail; its answer may say that the connection did. -/
theorem fails_call (made : Call) (act : Connection σ → σ → α × σ) :
    FailsInExecution (call made act) := by
  intro _ _ _ failed
  cases failed

/-- The answer of the connection is where a failure in execution comes from. -/
theorem fails_valueOf (sql : String) (answer : Answer α) :
    FailsInExecution (valueOf sql answer : Session σ α) := by
  intro _ _ _ failed
  cases answer with
  | error failure => cases failed; rfl
  | ok a => cases failed

/-- A computation without a connection is committed where its errors refuse nothing. -/
theorem committed_ofExcept {value : Except SchemaError α} (faults : Unrefusing value) :
    Committed (ofExcept value : Session σ α) := by
  intro surroundings state e failed
  refine ⟨?_, fun _ => (silent_ofExcept value).asksAtMost surroundings state⟩
  cases value with
  | error cause => cases failed; exact faults e rfl
  | ok a => cases failed

/-- A query asks and changes nothing. -/
theorem asks_query (sql : String) (act : Connection σ → σ → α × σ) :
    AsksAtMost (call (.query sql) act) := by
  intro _ _ call mem
  cases List.mem_singleton.1 mem
  rfl

theorem fails_showStatement (sql : String) :
    FailsInExecution (showStatement sql : Session σ Unit) :=
  (fails_note _).bind fun _ => fails_call _ _

/-- A statement fails where the connection refuses it, and a statement that is shown does not. -/
theorem fails_execute (sql : String) : FailsInExecution (execute sql : Session σ Nat) := by
  apply fails_isSimulating.bind
  intro simulating
  cases simulating with
  | true => exact (fails_showStatement sql).bind fun _ => fails_pure 0
  | false => exact (fails_note _).bind fun _ => (fails_call _ _).bind fun _ => fails_valueOf sql _

theorem fails_discard_execute (sql : String) :
    FailsInExecution (discard (execute sql) : Session σ Unit) :=
  (fails_execute sql).bind fun _ => fails_pure ()

/-- Statements sent one after another fail only in execution: the induction is on those that are
still to be sent. -/
theorem fails_executeAll (statements : List String) :
    FailsInExecution (executeAll statements : Session σ Unit) := by
  induction statements with
  | nil => exact fails_pure ()
  | cons sql rest ih => exact (fails_discard_execute sql).bind fun _ => ih

theorem fails_executeBound (sql : String) (values : List Json) :
    FailsInExecution (executeBound sql values : Session σ Nat) :=
  (fails_note _).bind fun _ => (fails_call _ _).bind fun _ => fails_valueOf sql _

/-- Once the plan is made, only the connection can stop it. -/
theorem fails_alter (table : String) (plan : AlterPlan) :
    FailsInExecution (alter table plan : Session σ Unit) :=
  fails_executeAll (plan.statements table)

/-- The answer to a query takes one query. -/
theorem asks_answerTo (sql : String) : AsksAtMost (answerTo sql : Session σ (Answer (List Row))) :=
  (silent_note _).asksAtMost.seq fun _ => asks_query sql _

/-- To wait for an answer does not fail, whatever the answer is. -/
theorem fails_answerTo (sql : String) :
    FailsInExecution (answerTo sql : Session σ (Answer (List Row))) :=
  (fails_note _).bind fun _ => fails_call _ _

/-- All rows are read by one query. -/
theorem reading_fetchAll (sql : String) : Reading (fetchAll sql : Session σ (List Row)) where
  asks := (asks_answerTo sql).seq fun _ => (silent_valueOf sql _).asksAtMost
  committed := ((fails_answerTo sql).bind fun _ => fails_valueOf sql _).committed

/-- The first row is read by one query. -/
theorem reading_fetchRow (sql : String) : Reading (fetchRow sql : Session σ (Option Row)) where
  asks := (silent_note _).asksAtMost.seq fun _ =>
    (asks_query sql _).seq fun _ => (silent_valueOf sql _).asksAtMost
  committed := FailsInExecution.committed <|
    (fails_note _).bind fun _ => (fails_call _ _).bind fun _ => fails_valueOf sql _

/-- What refuses nothing may be computed between two queries. -/
theorem reading_ofExcept {value : Except SchemaError α} (faults : Unrefusing value) :
    Reading (ofExcept value : Session σ α) :=
  ⟨(silent_ofExcept value).asksAtMost, committed_ofExcept faults⟩

theorem reading_pure (a : α) : Reading (pure a : Session σ α) :=
  ⟨(silent_pure a).asksAtMost, (fails_pure a).committed⟩

/-- What reads may go on with what reads. -/
theorem Reading.seq {first : Session σ α} {next : α → Session σ β} (reading : Reading first)
    (rest : ∀ a, Reading (next a)) : Reading (first >>= next) :=
  ⟨reading.asks.seq fun a => (rest a).asks, reading.bind fun a => (rest a).committed⟩

/-- What only reads is orderly. -/
theorem Reading.orderly {activity : Session σ α} (reading : Reading activity) :
    Orderly activity :=
  reading.committed.orderly

/-! ## Operations that ask -/

/-- The columns of a table are read by a query, and rows that cannot be read are no refusal. -/
theorem reading_columns (table : String) : Reading (columns table : Session σ (List Column)) :=
  (reading_fetchAll _).seq fun rows => reading_ofExcept (unrefusing_columnsOf rows)

/-- Whether a column exists is told by the columns that are read. -/
theorem reading_hasColumn (table name : String) : Reading (hasColumn table name : Session σ Bool) :=
  (reading_columns table).seq fun _ => reading_pure _

/-- The unique constraints of a table are read by a query. -/
theorem reading_uniqueKeys (table : String) :
    Reading (uniqueKeys table : Session σ (Metadata.KeyGroups String)) :=
  (reading_fetchAll _).seq fun rows => reading_ofExcept (unrefusing_keysOf _ _ rows)

/-- Whether the table has the primary key is told by the rows of its keys. -/
theorem reading_hasPrimaryKey (table : String) (wanted : List String)
    (constraint : Option String) :
    Reading (hasPrimaryKey table wanted constraint : Session σ Bool) :=
  (reading_fetchAll _).seq fun rows =>
    (reading_ofExcept (unrefusing_keysOf _ _ rows)).seq fun _ => reading_pure _

/-- Whether the table has the foreign key is told by the rows of its keys. -/
theorem reading_hasForeignKey (table : String) (wanted : List String)
    (constraint : Option String) :
    Reading (hasForeignKey table wanted constraint : Session σ Bool) :=
  (reading_fetchAll _).seq fun rows =>
    (reading_ofExcept (unrefusing_keysOf _ _ rows)).seq fun _ => reading_pure _

/-! ## Operations that alter -/

/-- A plan that may be refused is made before anything is sent. -/
theorem orderly_planned (table : String) (plan : Except SchemaError AlterPlan) :
    Orderly (Session.ofExcept plan >>= alter table : Session σ Unit) :=
  (silent_ofExcept plan).bind fun made => (fails_alter table made).committed.orderly

/-- The statement that creates a table is composed before it is sent. -/
theorem orderly_createTable (table : Table) : Orderly (createTable table : Session σ Unit) :=
  (silent_ofExcept table.creation).bind fun creation =>
    (fails_discard_execute creation.render).committed.orderly

/-- A step of a transaction refuses nothing. -/
theorem orderly_transaction (step : TransactionStep) :
    Orderly (transaction step : Session σ Unit) :=
  ((fails_note _).bind fun _ => fails_discard_execute _).committed.orderly

/-- A column is looked for before the statement that renames it is sent. -/
theorem orderly_renameColumn (table source target : String) :
    Orderly (renameColumn table source target : Session σ Unit) := by
  refine Committed.orderly ((reading_hasColumn table source).bind fun found => ?_)
  cases found with
  | true => exact (fails_alter table _).committed
  | false =>
    have missing : Unrefusing (.error (.columnNotFound table source) : Except SchemaError Unit) :=
      FailsOnly.error rfl
    exact (reading_ofExcept missing).committed

/-- The desired type is looked at before anything is asked, and once more with what was answered. -/
theorem orderly_changeColumn (table name : String) (desired : Column) :
    Orderly (changeColumn table name desired : Session σ Unit) := by
  refine Silent.bind (fun surroundings state => ?_) fun _ =>
    Committed.orderly ((reading_columns table).bind fun live => ?_)
  · cases desired.dataType <;> rfl
  · exact (reading_ofExcept (unrefusing_changeColumn table live name desired)).bind
      fun plan => (fails_alter table plan).committed

/-- A choice of key columns that was accepted can be refused by the connection alone. -/
theorem committed_changePrimaryKey (table : String) (choice : KeyChoice) :
    Committed (changePrimaryKey table choice : Session σ Unit) :=
  (reading_hasPrimaryKey table [] none).bind fun _ => (fails_alter table _).committed

/-- Rows are compared with each other before the statement that inserts them is sent. -/
theorem orderly_insertRows (table : String) (rows : List Row) :
    Orderly (insertRows table rows : Session σ Unit) := by
  apply silent_isSimulating.bind
  intro simulating
  cases simulating with
  | true =>
    apply (silent_ofExcept (Insert.inPlace table rows)).bind
    intro shown
    cases shown with
    | none => exact (silent_pure ()).orderly
    | some sql => exact (fails_showStatement sql).committed.orderly
  | false =>
    apply (silent_ofExcept (Insert.prepared table rows)).bind
    intro prepared
    cases prepared with
    | none => exact (silent_pure ()).orderly
    | some bound =>
      exact (FailsInExecution.bind (fails_executeBound bound.sql bound.values)
        fun _ => fails_pure ()).committed.orderly

/-- The order of the history is settled before the history is asked for. -/
theorem orderly_history : Orderly (history : Session σ (List AppliedMigration)) := by
  refine silent_settings.bind fun settings => (silent_ofExcept _).bind fun order => ?_
  refine Committed.orderly
    (Reading.bind ⟨asks_answerTo _, (fails_answerTo _).committed⟩ fun answer => ?_)
  cases answer with
  | ok rows => exact committed_ofExcept (unrefusing_ofRows rows)
  | error failure =>
    refine (fails_isSimulating.bind fun simulating => ?_).committed
    cases simulating with
    | true => exact fails_pure []
    | false =>
      rw [if_neg Bool.false_ne_true]
      exact fails_valueOf _ _

end Session

namespace Operation

open Session

/-- Every operation refuses first, then asks, then sends. -/
theorem orderly {σ : Type} (operation : Operation) :
    Orderly (operation.perform : Session σ Outcome) := by
  -- An operation that neither refuses nor asks is committed to sending from the start.
  cases operation with
  | execute sql => exact (fails_execute sql).committed.orderly.map _
  | hasTransactions => exact (silent_pure _).orderly
  | transaction step => exact (orderly_transaction step).map _
  | quoteTableName name => exact (silent_pure _).orderly
  | quoteColumnName name => exact (silent_pure _).orderly
  | sizedType name limit => exact (silent_ofExcept _).orderly.map _
  | isValidColumnType column => exact (silent_pure _).orderly
  | hasTable table => exact ((reading_fetchRow _).seq fun _ => reading_pure _).orderly.map _
  | createTable table => exact (orderly_createTable table).map _
  | truncateTable table => exact (fails_discard_execute _).committed.orderly.map _
  | renameTable table name => exact (fails_alter table _).committed.orderly.map _
  | dropTable table => exact (fails_alter table _).committed.orderly.map _
  | changeComment table comment => exact (fails_alter table _).committed.orderly.map _
  | columns table => exact (reading_columns table).orderly.map _
  | hasColumn table name => exact (reading_hasColumn table name).orderly.map _
  | addColumn table column => exact (orderly_planned table _).map _
  | renameColumn table source target => exact (orderly_renameColumn table source target).map _
  | changeColumn table name desired => exact (orderly_changeColumn table name desired).map _
  | dropColumn table name => exact (fails_alter table _).committed.orderly.map _
  | hasIndex table wanted =>
    exact ((reading_uniqueKeys table).seq fun _ => reading_pure _).orderly.map _
  | hasIndexNamed table name =>
    exact ((reading_uniqueKeys table).seq fun _ => reading_pure _).orderly.map _
  | addIndex table index => exact (orderly_planned table _).map _
  | dropIndex table dropped => exact (fails_alter table _).committed.orderly.map _
  | dropIndexNamed table name => exact (fails_alter table _).committed.orderly.map _
  | hasPrimaryKey table wanted constraint =>
    exact (reading_hasPrimaryKey table wanted constraint).orderly.map _
  | changePrimaryKey table choice => exact (committed_changePrimaryKey table choice).orderly.map _
  | changePrimaryKeyTo table value =>
    exact (silent_ofExcept (KeyChoice.ofJson value)).bind fun choice =>
      (committed_changePrimaryKey table choice).orderly.map _
  | hasForeignKey table wanted constraint =>
    exact (reading_hasForeignKey table wanted constraint).orderly.map _
  | addForeignKey table key => exact (fails_alter table _).committed.orderly.map _
  | dropForeignKey table constraint => exact (fails_alter table _).committed.orderly.map _
  | dropForeignKeyOn table dropped => exact (fails_alter table _).committed.orderly.map _
  | createDatabase name => exact (fails_discard_execute _).committed.orderly.map _
  | hasDatabase name => exact ((reading_fetchRow _).seq fun _ => reading_pure _).orderly.map _
  | dropDatabase name => exact (fails_discard_execute _).committed.orderly.map _
  | insert table row => exact (orderly_insertRows table [row]).map _
  | insertRows table rows => exact (orderly_insertRows table rows).map _
  | history => exact orderly_history.map _

/-- Nothing is sent when an operation ends in an error that is not a failure of the connection: it
has made no call but queries, and none at all where it refuses its arguments, an index of a kind
that cannot be added, or settings without an order of the history. -/
theorem sends_nothing_unless_execution {σ : Type} (operation : Operation)
    (surroundings : Surroundings σ) (state : σ) {e : SchemaError}
    (failed : (operation.perform.run surroundings state).result = .error e) :
    (e.isExecution = false →
        ∀ call ∈ (operation.perform.run surroundings state).calls, call.asks = true) ∧
      (e.isRefusal = true → (operation.perform.run surroundings state).calls = []) :=
  operation.orderly surroundings state e failed

/-- A column that is not there is missed after one question, and a list of key columns with a number
in it is refused before any. -/
theorem sends_nothing_unless_execution_at_rename_and_key :
    let renamed := (Operation.renameColumn "orders" "total" "sum").perform.run
      ⟨.steady false fun _ => [], .standard⟩ ()
    let keyed :=
      (Operation.changePrimaryKeyTo "orders" (.array [.string "id", .ofInt 7])).perform.run
        ⟨.steady false fun _ => [], .standard⟩ ()
    renamed.result = .error (.columnNotFound "orders" "total") ∧
      (∀ call ∈ renamed.calls, call.asks = true) ∧
      keyed.result = .error (.invalidArgument (.keyItem (.ofInt 7))) ∧ keyed.calls = [] :=
  ⟨rfl, (sends_nothing_unless_execution (.renameColumn "orders" "total" "sum") _ () rfl).1 rfl, rfl,
    (sends_nothing_unless_execution
      (.changePrimaryKeyTo "orders" (.array [.string "id", .ofInt 7])) _ () rfl).2 rfl⟩

end Operation

end WarehouseSchema
