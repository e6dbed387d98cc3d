import Mathlib.Data.List.Forall2
import WarehouseSchema.Operation

/-!
# What a run that only shows its statements tells of the run that sends them

A connection that simulates is given no statement; the statements it would have been given are
shown instead. Such a run is a rehearsal: it asks the same questions, comes to the same results, and
shows, in order, what the other run sends.

## What is proved

`performAll_rehearses` says this of every list of operations. One step of both runs is a pair of
activities that `Follows` relates: from states in step they make calls that are counterparts of each
other, end alike, and leave the connections in step. A bind keeps the relation, every operation is
made of steps that have it, and the induction over the operations carries the states along.

A text that is shown need not be the statement that is sent: rows are sent by a statement with
placeholders and shown with their values in place. `Operation.Shows` says which text stands for
which call.
-/

set_option autoImplicit false

namespace WarehouseSchema

/-! ## Statements that are sent and texts that are shown -/

/-- Whether a call gives the connection a statement to run. -/
def Call.sends : Call → Bool
  | .execute _ | .executeBound _ _ => true
  | _ => false

/-- The text that a call shows. -/
def Call.shown? : Call → Option String
  | .output sql => some sql
  | _ => none

/-- The calls that gave the connection a statement to run, in order. -/
def Report.sent {σ α : Type} (report : Report σ α) : List Call := report.calls.filter Call.sends

/-- The texts that were shown, in order. -/
def Report.shown {σ α : Type} (report : Report σ α) : List String :=
  report.calls.filterMap Call.shown?

/-- Results of two runs that are alike: the same error, or values that are alike. -/
inductive ResultsAgree {α β : Type} (alike : α → β → Prop) :
    Except SchemaError α → Except SchemaError β → Prop where
  | ok {a : α} {b : β} (same : alike a b) : ResultsAgree alike (.ok a) (.ok b)
  | error (e : SchemaError) : ResultsAgree alike (.error e) (.error e)

namespace Insert

/-- A statement with placeholders and the text with values in place that it is shown as: both come
from the same rows for the same table. -/
structure Counterparts (table : String) (rows : List Row) (bound : Bound) (text : String) :
    Prop where
  prepared : Insert.prepared table rows = .ok (some bound)
  inPlace : Insert.inPlace table rows = .ok (some text)

/-- Columns that rows share are enough to send the rows and to show them. -/
theorem exists_counterparts {table : String} {rows : List Row} {columns : List String}
    (shared : sharedColumns table rows = .ok columns) (named : columns.isEmpty = false) :
    ∃ bound text, Counterparts table rows bound text := by
  have sent : ∃ bound, prepared table rows = .ok (some bound) := by
    simp only [prepared, shared, Except.map, named, Bool.false_eq_true, ↓reduceIte]
    exact ⟨_, rfl⟩
  have shown : ∃ text, inPlace table rows = .ok (some text) := by
    simp only [inPlace, shared, Except.map, named, Bool.false_eq_true, ↓reduceIte]
    exact ⟨_, rfl⟩
  obtain ⟨bound, prepared⟩ := sent
  obtain ⟨text, inPlace⟩ := shown
  exact ⟨bound, text, prepared, inPlace⟩

/-- Rows that can be sent can be shown, rows that cannot be sent cannot be shown for the same
reason, and no rows are neither. -/
theorem prepared_agrees_inPlace (table : String) (rows : List Row) :
    ResultsAgree (Option.Rel (Counterparts table rows)) (prepared table rows)
      (inPlace table rows) := by
  cases shared : sharedColumns table rows with
  | error e =>
    simp only [prepared, inPlace, shared, Except.map]
    exact .error e
  | ok columns =>
    cases named : columns.isEmpty with
    | true =>
      simp only [prepared, inPlace, shared, Except.map, named, ↓reduceIte]
      exact .ok .none
    | false =>
      obtain ⟨bound, text, counterparts⟩ := exists_counterparts shared named
      rw [counterparts.prepared, counterparts.inPlace]
      exact .ok (.some counterparts)

/-- Rows that share their columns have some. -/
theorem isEmpty_sharedColumns {table : String} {rows : List Row} {columns : List String}
    (present : rows ≠ []) (shared : sharedColumns table rows = .ok columns) :
    columns.isEmpty = false := by
  cases rows with
  | nil => exact absurd rfl present
  | cons first others =>
    rw [sharedColumns] at shared
    split at shared
    · cases shared
    · rename_i named
      split at shared
      · cases shared
      · cases shared
        exact Bool.eq_false_iff.2 named

end Insert

namespace Operation

/-- The table and the rows that an operation inserts. -/
def insertion? : Operation → Option (String × List Row)
  | .insert table row => some (table, [row])
  | .insertRows table rows => some (table, rows)
  | _ => none

/-- The text that is shown in place of a call of the operation: a statement is shown as it is, and
the rows to insert with their values in place. -/
inductive Shows (operation : Operation) : Call → String → Prop where
  | statement (sql : String) : Shows operation (.execute sql) sql
  | rows {table : String} {rows : List Row} {bound : Insert.Bound} {text : String}
      (inserts : operation.insertion? = some (table, rows))
      (counterparts : Insert.Counterparts table rows bound text) :
      Shows operation (.executeBound bound.sql bound.values) text

/-- Where the operation inserts rows of the same columns, they are sent by one statement. -/
def SendsItsRows {σ : Type} (operation : Operation) (report : Report σ Outcome) : Prop :=
  ∀ table rows columns, operation.insertion? = some (table, rows) → rows ≠ [] →
    Insert.sharedColumns table rows = .ok columns →
      ∃ bound, Insert.prepared table rows = .ok (some bound) ∧
        report.sent = [.executeBound bound.sql bound.values]

/-- The calls that gave the connection a statement, each with the operation that made it. -/
def sentBy {σ : Type} : List Operation → List (Report σ Outcome) → List (Operation × Call)
  | operation :: operations, report :: reports =>
    report.sent.map (operation, ·) ++ sentBy operations reports
  | _, _ => []

end Operation

/-- An outcome without the number of affected rows, which a connection that is given no statement
cannot tell. -/
def Outcome.uncounted : Outcome → Outcome
  | .affected _ => .affected 0
  | outcome => outcome

/-! ## Two connections in step -/

/-- A connection that sends and one that simulates, and which of their states are in step. In such
states queries have the same answer, statements are accepted, and a statement that is sent on one
side and shown on the other leaves the two in step. -/
structure Rehearsal (σ τ : Type) where
  live : Connection σ
  dry : Connection τ
  settings : Settings
  inStep : σ → τ → Prop
  sends : ∀ {s t}, inStep s t → live.isSimulating s = false
  simulates : ∀ {s t}, inStep s t → dry.isSimulating t = true
  fetchAll : ∀ {s t}, inStep s t → ∀ sql, ∃ rows s' t',
    live.fetchAll sql s = (.ok rows, s') ∧ dry.fetchAll sql t = (.ok rows, t') ∧ inStep s' t'
  fetchRow : ∀ {s t}, inStep s t → ∀ sql, ∃ row s' t',
    live.fetchRow sql s = (.ok row, s') ∧ dry.fetchRow sql t = (.ok row, t') ∧ inStep s' t'
  execute : ∀ {s t}, inStep s t → ∀ sql, ∃ count s',
    live.execute sql s = (.ok count, s') ∧ inStep s' (dry.writeOutput sql t)
  insert : ∀ {s t}, inStep s t → ∀ {table rows bound text},
    Insert.Counterparts table rows bound text → ∃ count s',
      live.executeBound bound.sql bound.values s = (.ok count, s') ∧
        inStep s' (dry.writeOutput text t)

namespace Rehearsal

variable {σ τ : Type}

/-- What the run that sends acts with. -/
def onLive (rehearsal : Rehearsal σ τ) : Surroundings σ := ⟨rehearsal.live, rehearsal.settings⟩

/-- What the run that simulates acts with. -/
def onDry (rehearsal : Rehearsal σ τ) : Surroundings τ := ⟨rehearsal.dry, rehearsal.settings⟩

/-- A connection that answers each query with fixed rows rehearses itself. -/
def steady (settings : Settings) (rowsFor : String → List Row) : Rehearsal Unit Unit where
  live := .steady false rowsFor
  dry := .steady true rowsFor
  settings := settings
  inStep _ _ := True
  sends _ := rfl
  simulates _ := rfl
  fetchAll _ sql := ⟨rowsFor sql, (), (), rfl, rfl, trivial⟩
  fetchRow _ sql := ⟨(rowsFor sql).head?, (), (), rfl, rfl, trivial⟩
  execute _ _ := ⟨1, (), rfl, trivial⟩
  insert _ _ _ _ _ _ := ⟨_, (), rfl, trivial⟩

end Rehearsal

/-! ## One step of both runs -/

/-- A call of the run that sends and its counterpart: a query is asked by both, and a statement is
shown as the text that stands for it. -/
inductive Counterpart (shows : Call → String → Prop) : Call → Call → Prop where
  | query (sql : String) : Counterpart shows (.query sql) (.query sql)
  | statement {call : Call} {text : String} (sent : call.sends = true) (shown : shows call text) :
      Counterpart shows call (.output text)

variable {σ τ α β γ δ : Type}

/-- What came of an activity in both runs: results that are alike, calls that are counterparts of
each other, and connections that are in step. -/
structure Report.Follows (rehearsal : Rehearsal σ τ) (shows : Call → String → Prop)
    (alike : α → β → Prop) (lived : Report σ α) (rehearsed : Report τ β) : Prop where
  results : ResultsAgree alike lived.result rehearsed.result
  calls : List.Forall₂ (Counterpart shows) lived.calls rehearsed.calls
  inStep : rehearsal.inStep lived.state rehearsed.state

/-- From states in step, the activity of the rehearsal follows the other one. -/
def Follows (rehearsal : Rehearsal σ τ) (shows : Call → String → Prop) (alike : α → β → Prop)
    (live : Session σ α) (dry : Session τ β) : Prop :=
  ∀ s t, rehearsal.inStep s t →
    Report.Follows rehearsal shows alike (live.run rehearsal.onLive s) (dry.run rehearsal.onDry t)

namespace Follows

open Session

variable {rehearsal : Rehearsal σ τ} {shows : Call → String → Prop}

/-- Values that are alike follow each other. -/
theorem pure {alike : α → β → Prop} {a : α} {b : β} (same : alike a b) :
    Follows rehearsal shows alike (Pure.pure a) (Pure.pure b) :=
  fun _ _ start => ⟨.ok same, .nil, start⟩

/-- The same failure follows itself. -/
theorem fail {alike : α → β → Prop} (e : SchemaError) :
    Follows rehearsal shows alike (Session.fail e) (Session.fail e) :=
  fun _ _ start => ⟨.error e, .nil, start⟩

/-- Activities that follow each other may go on with activities that do, from values that are
alike. -/
theorem bind {first : α → β → Prop} {alike : γ → δ → Prop} {live : Session σ α}
    {dry : Session τ β} {liveNext : α → Session σ γ} {dryNext : β → Session τ δ}
    (follows : Follows rehearsal shows first live dry)
    (rest : ∀ a b, first a b → Follows rehearsal shows alike (liveNext a) (dryNext b)) :
    Follows rehearsal shows alike (live >>= liveNext) (dry >>= dryNext) := by
  intro s t start
  obtain ⟨agree, calls, after⟩ := follows s t start
  rw [run_bind, run_bind]
  generalize live.run rehearsal.onLive s = lived at agree calls after ⊢
  generalize dry.run rehearsal.onDry t = rehearsed at agree calls after ⊢
  obtain ⟨livedResult, s', livedEvents⟩ := lived
  obtain ⟨rehearsedResult, t', rehearsedEvents⟩ := rehearsed
  simp only [Report.result_mk] at agree
  cases agree with
  | error e => exact ⟨.error e, calls, after⟩
  | ok same =>
    obtain ⟨agree, more, last⟩ := rest _ _ same s' t' after
    refine ⟨agree, ?_, last⟩
    rw [Report.calls_after, Report.calls_after]
    exact List.rel_append calls more

/-- Activities that follow each other with the same value may go on from it. -/
theorem seq {alike : γ → δ → Prop} {live : Session σ α} {dry : Session τ α}
    {liveNext : α → Session σ γ} {dryNext : α → Session τ δ}
    (follows : Follows rehearsal shows Eq live dry)
    (rest : ∀ a, Follows rehearsal shows alike (liveNext a) (dryNext a)) :
    Follows rehearsal shows alike (live >>= liveNext) (dry >>= dryNext) :=
  follows.bind fun a _ same => same ▸ rest a

/-- What is made of values that are alike follows, if it is alike. -/
theorem map {first : α → β → Prop} {alike : γ → δ → Prop} {live : Session σ α}
    {dry : Session τ β} (follows : Follows rehearsal shows first live dry) {f : α → γ} {g : β → δ}
    (same : ∀ a b, first a b → alike (f a) (g b)) :
    Follows rehearsal shows alike (f <$> live) (g <$> dry) := by
  rw [map_eq_bind, map_eq_bind]
  exact follows.bind fun a b h => .pure (same a b h)

/-- What comes of an activity may be forgotten on both sides. -/
theorem discard {first : α → β → Prop} {live : Session σ α} {dry : Session τ β}
    (follows : Follows rehearsal shows first live dry) :
    Follows rehearsal shows Eq (Functor.discard live) (Functor.discard dry) :=
  follows.bind fun _ _ _ => .pure rfl

/-- Computations without a connection follow each other where their results are alike. -/
theorem computed {alike : α → β → Prop} {live : Except SchemaError α} {dry : Except SchemaError β}
    (agree : ResultsAgree alike live dry) :
    Follows rehearsal shows alike (Session.ofExcept live) (Session.ofExcept dry) := by
  cases agree with
  | error e => exact .fail e
  | ok same => exact .pure same

/-- What is computed without a connection is the same on both sides. -/
theorem ofExcept (value : Except SchemaError α) :
    Follows rehearsal shows Eq (Session.ofExcept value) (Session.ofExcept value) := by
  cases value with
  | error e => exact .fail e
  | ok a => exact .pure rfl

/-- A note for an observer is no call. -/
theorem note (note : Note) :
    Follows rehearsal shows Eq (Session.note note) (Session.note note) :=
  fun _ _ start => ⟨.ok rfl, .nil, start⟩

/-- Both runs have the same settings. -/
theorem settings : Follows rehearsal shows Eq Session.settings Session.settings :=
  fun _ _ start => ⟨.ok rfl, .nil, start⟩

/-- The two connections disagree on whether they simulate, and on nothing else that is answered. -/
theorem isSimulating :
    Follows rehearsal shows (fun live dry => live = false ∧ dry = true) Session.isSimulating
      Session.isSimulating :=
  fun _ _ start => ⟨.ok ⟨rehearsal.sends start, rehearsal.simulates start⟩, .nil, start⟩

/-- A query is asked on both sides and answered alike. -/
theorem fetchAll (sql : String) :
    Follows rehearsal shows Eq (Session.fetchAll sql) (Session.fetchAll sql) := by
  intro s t start
  obtain ⟨rows, s', t', live, dry, after⟩ := rehearsal.fetchAll start sql
  simp only [run_fetchAll, Rehearsal.onLive, Rehearsal.onDry, live, dry]
  exact ⟨.ok rfl, .cons (.query sql) .nil, after⟩

/-- The first row of a query is the same on both sides. -/
theorem fetchRow (sql : String) :
    Follows rehearsal shows Eq (Session.fetchRow sql) (Session.fetchRow sql) := by
  intro s t start
  obtain ⟨row, s', t', live, dry, after⟩ := rehearsal.fetchRow start sql
  simp only [run_fetchRow, Rehearsal.onLive, Rehearsal.onDry, live, dry]
  exact ⟨.ok rfl, .cons (.query sql) .nil, after⟩

/-- The answer to a query is never a failure. -/
theorem answerTo (sql : String) :
    Follows rehearsal shows (fun live dry => ∃ rows, live = .ok rows ∧ dry = .ok rows)
      (Session.answerTo sql) (Session.answerTo sql) := by
  intro s t start
  obtain ⟨rows, s', t', live, dry, after⟩ := rehearsal.fetchAll start sql
  simp only [run_answerTo, Rehearsal.onLive, Rehearsal.onDry, live, dry]
  exact ⟨.ok ⟨rows, rfl, rfl⟩, .cons (.query sql) .nil, after⟩

/-- A statement that one run sends the other one shows, and no row is affected there. -/
theorem execute (plain : ∀ sql, shows (.execute sql) sql) (sql : String) :
    Follows rehearsal shows (fun _ affected => affected = 0) (Session.execute sql)
      (Session.execute sql) := by
  intro s t start
  obtain ⟨count, s', live, after⟩ := rehearsal.execute start sql
  rw [run_execute_of_live sql (rehearsal.sends start),
    run_execute_of_simulating sql (rehearsal.simulates start)]
  simp only [Rehearsal.onLive, Rehearsal.onDry, live]
  exact ⟨.ok rfl, .cons (.statement rfl (plain sql)) .nil, after⟩

/-- Statements that one run sends the other one shows in the same order: the induction is on those
that are still to be sent. -/
theorem executeAll (plain : ∀ sql, shows (.execute sql) sql) (statements : List String) :
    Follows rehearsal shows Eq (Session.executeAll statements)
      (Session.executeAll statements) := by
  induction statements with
  | nil => exact .pure rfl
  | cons sql rest ih => exact (execute plain sql).discard.seq fun _ => ih

/-- The statements of a plan are sent on one side and shown on the other, one for one. -/
theorem alter (plain : ∀ sql, shows (.execute sql) sql) (table : String) (plan : AlterPlan) :
    Follows rehearsal shows Eq (Session.alter table plan) (Session.alter table plan) :=
  executeAll plain (plan.statements table)

/-- Rows that can be sent and shown are sent by one run and shown by the other. -/
theorem insertion {table : String} {rows : List Row} {bound : Insert.Bound} {text : String}
    (counterparts : Insert.Counterparts table rows bound text)
    (stands : shows (.executeBound bound.sql bound.values) text) :
    Follows rehearsal shows Eq (Functor.discard (Session.executeBound bound.sql bound.values))
      (Session.showStatement text) := by
  intro s t start
  obtain ⟨count, s', live, after⟩ := rehearsal.insert start counterparts
  rw [discard_eq_bind, run_bind, run_executeBound, run_showStatement]
  simp only [Rehearsal.onLive, live]
  exact ⟨.ok rfl, .cons (.statement rfl stands) .nil, after⟩

/-- Rows that one run sends by one statement the other one shows with their values in place. -/
theorem insertRows {table : String} {rows : List Row}
    (stands : ∀ {bound text}, Insert.Counterparts table rows bound text →
      shows (.executeBound bound.sql bound.values) text) :
    Follows rehearsal shows Eq (Session.insertRows table rows)
      (Session.insertRows table rows) := by
  apply isSimulating.bind
  rintro _ _ ⟨rfl, rfl⟩
  rw [if_neg Bool.false_ne_true, if_pos rfl]
  apply (computed (Insert.prepared_agrees_inPlace table rows)).bind
  intro _ _ related
  cases related with
  | none => exact .pure rfl
  | some counterparts => exact insertion counterparts (stands counterparts)

/-! ## Operations that ask -/

/-- Both runs find the same tables. -/
theorem hasTable (table : String) :
    Follows rehearsal shows Eq (Session.hasTable table) (Session.hasTable table) :=
  (fetchRow _).seq fun _ => .pure rfl

/-- Both runs read the same columns. -/
theorem columns (table : String) :
    Follows rehearsal shows Eq (Session.columns table) (Session.columns table) :=
  (fetchAll _).seq fun _ => .ofExcept _

/-- Both runs find the same columns. -/
theorem hasColumn (table name : String) :
    Follows rehearsal shows Eq (Session.hasColumn table name) (Session.hasColumn table name) :=
  (columns table).seq fun _ => .pure rfl

/-- Both runs read the same unique constraints. -/
theorem uniqueKeys (table : String) :
    Follows rehearsal shows Eq (Session.uniqueKeys table) (Session.uniqueKeys table) :=
  (fetchAll _).seq fun _ => .ofExcept _

/-- Both runs find the same primary key. -/
theorem hasPrimaryKey (table : String) (wanted : List String) (constraint : Option String) :
    Follows rehearsal shows Eq (Session.hasPrimaryKey table wanted constraint)
      (Session.hasPrimaryKey table wanted constraint) :=
  (fetchAll _).seq fun _ => (ofExcept _).seq fun _ => .pure rfl

/-- Both runs find the same foreign keys. -/
theorem hasForeignKey (table : String) (wanted : List String) (constraint : Option String) :
    Follows rehearsal shows Eq (Session.hasForeignKey table wanted constraint)
      (Session.hasForeignKey table wanted constraint) :=
  (fetchAll _).seq fun _ => (ofExcept _).seq fun _ => .pure rfl

/-- The history is asked for in both runs; that a failure of the query is an empty history where the
connection simulates makes no difference, for the query does not fail. -/
theorem history : Follows rehearsal shows Eq Session.history Session.history := by
  refine settings.seq fun settings => (ofExcept _).seq fun order => ?_
  apply (answerTo _).bind
  intro live dry answered
  obtain ⟨rows, rfl, rfl⟩ := answered
  exact .ofExcept (History.ofRows rows)

/-! ## Operations that alter -/

/-- A step of a transaction is shown where the other run takes it. -/
theorem transaction (plain : ∀ sql, shows (.execute sql) sql) (step : TransactionStep) :
    Follows rehearsal shows Eq (Session.transaction step) (Session.transaction step) :=
  (note _).seq fun _ => (execute plain _).discard

/-- A table that cannot be created is refused on both sides; otherwise its statement is shown. -/
theorem createTable (plain : ∀ sql, shows (.execute sql) sql) (table : Table) :
    Follows rehearsal shows Eq (Session.createTable table) (Session.createTable table) :=
  (ofExcept _).seq fun _ => (execute plain _).discard

/-- A plan is made or refused on both sides alike, and then carried out on one and shown on the
other. -/
theorem planned (plain : ∀ sql, shows (.execute sql) sql) (table : String)
    (plan : Except SchemaError AlterPlan) :
    Follows rehearsal shows Eq (Session.ofExcept plan >>= Session.alter table)
      (Session.ofExcept plan >>= Session.alter table) :=
  (ofExcept plan).seq fun made => alter plain table made

/-- The column is looked for on both sides before it is renamed on one of them. -/
theorem renameColumn (plain : ∀ sql, shows (.execute sql) sql) (table source target : String) :
    Follows rehearsal shows Eq (Session.renameColumn table source target)
      (Session.renameColumn table source target) := by
  apply (hasColumn table source).seq
  intro found
  cases found with
  | true => exact alter plain table _
  | false => exact .fail _

/-- The live column is the same on both sides, and so is the plan. -/
theorem changeColumn (plain : ∀ sql, shows (.execute sql) sql) (table name : String)
    (desired : Column) :
    Follows rehearsal shows Eq (Session.changeColumn table name desired)
      (Session.changeColumn table name desired) :=
  (ofExcept _).discard.seq fun _ => (columns table).seq fun _ => planned plain table _

/-- The present key is the same on both sides, and so is the plan. -/
theorem changePrimaryKey (plain : ∀ sql, shows (.execute sql) sql) (table : String)
    (choice : KeyChoice) :
    Follows rehearsal shows Eq (Session.changePrimaryKey table choice)
      (Session.changePrimaryKey table choice) :=
  (hasPrimaryKey table [] none).seq fun _ => alter plain table _

/-! ## Outcomes -/

/-- The outcome of both runs is the same where it does not count rows. -/
theorem outcome {live : Session σ α} {dry : Session τ α}
    (follows : Follows rehearsal shows Eq live dry) {f : α → Outcome}
    (uncounted : ∀ a, (f a).uncounted = f a) :
    Follows rehearsal shows (fun lived rehearsed => rehearsed = lived.uncounted) (f <$> live)
      (f <$> dry) :=
  follows.map fun a _ same => same ▸ (uncounted a).symm

end Follows

/-! ## Operations and lists of operations -/

namespace Operation

open Follows

/-- The rehearsal of an operation follows the operation. -/
theorem follows (rehearsal : Rehearsal σ τ) (operation : Operation) :
    Follows rehearsal operation.Shows (fun lived rehearsed => rehearsed = lived.uncounted)
      operation.perform operation.perform := by
  -- A statement without values is shown as it is sent; only inserted rows are shown otherwise.
  have plain : ∀ sql, operation.Shows (.execute sql) sql := .statement
  cases operation with
  | execute sql =>
    exact (Follows.execute plain sql).map fun _ _ none => congrArg Outcome.affected none
  | hasTransactions => exact .pure rfl
  | transaction step => exact (Follows.transaction plain step).outcome fun _ => rfl
  | quoteTableName name => exact .pure rfl
  | quoteColumnName name => exact .pure rfl
  | sizedType name limit => exact (Follows.ofExcept _).outcome fun _ => rfl
  | isValidColumnType column => exact .pure rfl
  | hasTable table => exact (Follows.hasTable table).outcome fun _ => rfl
  | createTable table => exact (Follows.createTable plain table).outcome fun _ => rfl
  | truncateTable table => exact (Follows.execute plain _).discard.outcome fun _ => rfl
  | renameTable table name => exact (alter plain table _).outcome fun _ => rfl
  | dropTable table => exact (alter plain table _).outcome fun _ => rfl
  | changeComment table comment => exact (alter plain table _).outcome fun _ => rfl
  | columns table => exact (Follows.columns table).outcome fun _ => rfl
  | hasColumn table name => exact (Follows.hasColumn table name).outcome fun _ => rfl
  | addColumn table column => exact (planned plain table _).outcome fun _ => rfl
  | renameColumn table source target =>
    exact (Follows.renameColumn plain table source target).outcome fun _ => rfl
  | changeColumn table name desired =>
    exact (Follows.changeColumn plain table name desired).outcome fun _ => rfl
  | dropColumn table name => exact (alter plain table _).outcome fun _ => rfl
  | hasIndex table wanted => exact ((uniqueKeys table).seq fun _ => .pure rfl).outcome fun _ => rfl
  | hasIndexNamed table name =>
    exact ((uniqueKeys table).seq fun _ => .pure rfl).outcome fun _ => rfl
  | addIndex table index => exact (planned plain table _).outcome fun _ => rfl
  | dropIndex table dropped => exact (alter plain table _).outcome fun _ => rfl
  | dropIndexNamed table name => exact (alter plain table _).outcome fun _ => rfl
  | hasPrimaryKey table wanted constraint =>
    exact (Follows.hasPrimaryKey table wanted constraint).outcome fun _ => rfl
  | changePrimaryKey table choice =>
    exact (Follows.changePrimaryKey plain table choice).outcome fun _ => rfl
  | changePrimaryKeyTo table value =>
    exact (Follows.ofExcept _).seq fun choice =>
      (Follows.changePrimaryKey plain table choice).outcome fun _ => rfl
  | hasForeignKey table wanted constraint =>
    exact (Follows.hasForeignKey table wanted constraint).outcome fun _ => rfl
  | addForeignKey table key => exact (alter plain table _).outcome fun _ => rfl
  | dropForeignKey table constraint => exact (alter plain table _).outcome fun _ => rfl
  | dropForeignKeyOn table dropped => exact (alter plain table _).outcome fun _ => rfl
  | createDatabase name => exact (Follows.execute plain _).discard.outcome fun _ => rfl
  | hasDatabase name => exact ((fetchRow _).seq fun _ => .pure rfl).outcome fun _ => rfl
  | dropDatabase name => exact (Follows.execute plain _).discard.outcome fun _ => rfl
  | insert table row => exact (Follows.insertRows (.rows rfl)).outcome fun _ => rfl
  | insertRows table rows => exact (Follows.insertRows (.rows rfl)).outcome fun _ => rfl
  | history => exact Follows.history.outcome fun _ => rfl

/-- Rows of the same columns are sent by one statement and by no other. -/
theorem sent_insertRows {table : String} {rows : List Row} {bound : Insert.Bound}
    (prepared : Insert.prepared table rows = .ok (some bound)) {surroundings : Surroundings σ}
    {state : σ} (live : surroundings.connection.isSimulating state = false) (f : Unit → Outcome) :
    ((f <$> Session.insertRows table rows).run surroundings state).sent =
      [.executeBound bound.sql bound.values] := by
  simp only [Session.insertRows, Session.map_eq_bind, Session.discard_eq_bind, Session.run_bind,
    Session.run_isSimulating, live, prepared, Bool.false_eq_true, ↓reduceIte, Session.ofExcept,
    Session.run_pure, Session.run_executeBound]
  -- The statement is sent whether or not it succeeds.
  cases (surroundings.connection.executeBound bound.sql bound.values state).1 <;> rfl

/-- A run that does not simulate sends the rows of an insertion by one statement. -/
theorem sendsItsRows (operation : Operation) {surroundings : Surroundings σ} {state : σ}
    (live : surroundings.connection.isSimulating state = false) :
    operation.SendsItsRows (operation.perform.run surroundings state) := by
  intro table rows columns inserts present shared
  obtain ⟨bound, _, counterparts⟩ :=
    Insert.exists_counterparts shared (Insert.isEmpty_sharedColumns present shared)
  refine ⟨bound, counterparts.prepared, ?_⟩
  cases operation with
  | insert table row =>
    cases inserts
    exact sent_insertRows counterparts.prepared live _
  | insertRows table rows =>
    cases inserts
    exact sent_insertRows counterparts.prepared live _
  | _ => cases inserts

end Operation

/-- Where the calls of two runs are counterparts, the one sends nothing and shows what the other one
sends. -/
theorem sent_and_shown_of_counterparts {shows : Call → String → Prop} {live dry : List Call}
    (calls : List.Forall₂ (Counterpart shows) live dry) :
    dry.filter Call.sends = [] ∧
      List.Forall₂ shows (live.filter Call.sends) (dry.filterMap Call.shown?) := by
  induction calls with
  | nil => exact ⟨rfl, .nil⟩
  | cons counterpart _ ih =>
    obtain ⟨unsent, shown⟩ := ih
    cases counterpart with
    | query sql => exact ⟨unsent, shown⟩
    | statement sent stands =>
      rw [List.filter_cons_of_pos sent]
      exact ⟨unsent, .cons stands shown⟩

/-- Results that agree up to a count differ in the count alone. -/
theorem ResultsAgree.uncounted {lived rehearsed : Except SchemaError Outcome}
    (agree : ResultsAgree (fun live dry => dry = live.uncounted) lived rehearsed) :
    rehearsed = lived.map Outcome.uncounted := by
  cases agree with
  | error e => rfl
  | ok same => exact congrArg Except.ok same

namespace Operation

/-- A list of operations is rehearsed: the run that simulates sends nothing, every operation comes
to the same result in both runs but for the number of affected rows, the texts that are shown stand,
one for one and in order, for the statements that are sent, and rows to insert are sent by one
statement. -/
theorem performAll_rehearses (rehearsal : Rehearsal σ τ) (operations : List Operation) {s : σ}
    {t : τ} (start : rehearsal.inStep s t) :
    let lived := performAll rehearsal.onLive operations s
    let rehearsed := performAll rehearsal.onDry operations t
    (∀ report ∈ rehearsed, report.sent = []) ∧
      rehearsed.map Report.result = lived.map (fun report => report.result.map Outcome.uncounted) ∧
      List.Forall₂ (fun sent text => sent.1.Shows sent.2 text) (sentBy operations lived)
        (rehearsed.flatMap Report.shown) ∧
      List.Forall₂ SendsItsRows operations lived := by
  -- The induction is on the operations, from any states in step: each leaves the two in step.
  induction operations generalizing s t with
  | nil => exact ⟨fun _ mem => absurd mem List.not_mem_nil, rfl, .nil, .nil⟩
  | cons operation rest ih =>
    obtain ⟨agree, calls, after⟩ := operation.follows rehearsal s t start
    obtain ⟨unsent, shown⟩ := sent_and_shown_of_counterparts calls
    obtain ⟨unsentRest, resultsRest, shownRest, rowsRest⟩ := ih after
    refine ⟨?_, ?_, ?_, ?_⟩
    · intro report mem
      rcases List.mem_cons.1 mem with rfl | mem
      · exact unsent
      · exact unsentRest report mem
    · exact congrArg₂ List.cons agree.uncounted resultsRest
    · refine List.rel_append ?_ shownRest
      exact List.forall₂_map_left_iff.2 shown
    · exact .cons (operation.sendsItsRows (rehearsal.sends start)) rowsRest

/-- A table is renamed, a row is inserted, and a column that is not there is not renamed: the
rehearsal shows the first two statements and misses the column as well. -/
theorem performAll_rehearses_at_rename_and_insert :
    let rehearsal := Rehearsal.steady .standard fun _ => []
    let operations : List Operation :=
      [.renameTable "orders" "sales", .insert "sales" (.ofFields [("id", .ofInt 7)]),
        .renameColumn "sales" "total" "sum"]
    let lived := performAll rehearsal.onLive operations ()
    let rehearsed := performAll rehearsal.onDry operations ()
    let shown := ["alter table \"orders\" rename to \"sales\"",
      "insert into \"sales\" (\"id\") values (7);"]
    rehearsed.flatMap Report.shown = shown ∧
      (∀ report ∈ rehearsed, report.sent = []) ∧
      rehearsed.map Report.result = lived.map (fun report => report.result.map Outcome.uncounted) ∧
      List.Forall₂ (fun sent text => sent.1.Shows sent.2 text) (sentBy operations lived)
        (rehearsed.flatMap Report.shown) ∧
      List.Forall₂ SendsItsRows operations lived :=
  ⟨by decide, performAll_rehearses (.steady .standard fun _ => []) _ trivial⟩

end Operation

end WarehouseSchema
