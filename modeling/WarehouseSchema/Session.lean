import WarehouseSchema.Connection
import WarehouseSchema.Settings

/-!
# Sessions

A session talks to a connection under given settings and writes down what it does: the calls it
makes, and notes for an observer. Every statement that alters something goes through `execute`,
which shows it where the connection simulates; queries always run.

An operation that fails stops where it is. The calls made until then remain made, and remain in the
record.
-/

set_option autoImplicit false

namespace WarehouseSchema

/-- A step of a transaction. -/
inductive TransactionStep where
  | begin
  | commit
  | rollback
  deriving DecidableEq, Repr

namespace TransactionStep

/-- The name of a step. -/
def name : TransactionStep → String
  | .begin => "begin"
  | .commit => "commit"
  | .rollback => "rollback"

/-- The statement of a step. -/
def statement : TransactionStep → String
  | .begin => "begin transaction"
  | .commit => "commit"
  | .rollback => "rollback"

end TransactionStep

/-- A call on the connection. -/
inductive Call where
  | execute (sql : String)
  | query (sql : String)
  | executeBound (sql : String) (values : List Json)
  | output (sql : String)

/-- A note for an observer. -/
inductive Note where
  /-- A statement or a query is about to run, with this many bound values. -/
  | statement (sql : String) (values : Nat)
  /-- A statement is about to be shown instead of run. -/
  | simulated (sql : String)
  | transaction (step : TransactionStep)
  deriving DecidableEq, Repr

/-- What a session writes down. -/
inductive Event where
  | called (call : Call)
  | noted (note : Note)

/-- The call that an event is, if it is one. -/
def Event.call? : Event → Option Call
  | .called call => some call
  | .noted _ => none

/-- What comes of an activity: its result, the state of the connection afterwards, and what was
written down. -/
abbrev Report (σ α : Type) := Except SchemaError α × σ × List Event

namespace Report

variable {σ α : Type}

/-- The result of the activity. -/
def result (report : Report σ α) : Except SchemaError α := report.1

/-- The state of the connection afterwards. -/
def state (report : Report σ α) : σ := report.2.1

/-- What was written down. -/
def events (report : Report σ α) : List Event := report.2.2

/-- The calls that were made, in order. -/
def calls (report : Report σ α) : List Call := report.events.filterMap Event.call?

/-- The report of an activity that came after some events. -/
def after (earlier : List Event) (report : Report σ α) : Report σ α :=
  (report.result, report.state, earlier ++ report.events)

@[simp] theorem result_mk (result : Except SchemaError α) (state : σ) (events : List Event) :
    Report.result (result, state, events) = result := rfl

@[simp] theorem state_mk (result : Except SchemaError α) (state : σ) (events : List Event) :
    Report.state (result, state, events) = state := rfl

@[simp] theorem events_mk (result : Except SchemaError α) (state : σ) (events : List Event) :
    Report.events (result, state, events) = events := rfl

@[simp] theorem calls_mk (result : Except SchemaError α) (state : σ) (events : List Event) :
    Report.calls (result, state, events) = events.filterMap Event.call? := rfl

@[simp] theorem result_after (earlier : List Event) (report : Report σ α) :
    (report.after earlier).result = report.result := rfl

@[simp] theorem state_after (earlier : List Event) (report : Report σ α) :
    (report.after earlier).state = report.state := rfl

@[simp] theorem calls_after (earlier : List Event) (report : Report σ α) :
    (report.after earlier).calls = earlier.filterMap Event.call? ++ report.calls :=
  List.filterMap_append

/-- Events that came before others came before all of them. -/
theorem after_after (first second : List Event) (report : Report σ α) :
    (report.after second).after first = report.after (first ++ second) := by
  show (report.result, report.state, first ++ (second ++ report.events)) = _
  rw [← List.append_assoc]
  rfl

end Report

/-- What a session acts with. -/
structure Surroundings (σ : Type) where
  connection : Connection σ
  settings : Settings

/-- An activity that talks to a connection with states in `σ`. It adds to the record and cannot read
it. -/
def Session (σ α : Type) : Type := Surroundings σ → σ → Report σ α

namespace Session

variable {σ α β : Type}

/-- Runs an activity from a state of the connection. -/
def run (activity : Session σ α) (surroundings : Surroundings σ) (state : σ) : Report σ α :=
  activity surroundings state

/-- An activity and then the next one, which a failure of the first keeps from being begun. -/
protected def bind (first : Session σ α) (next : α → Session σ β) : Session σ β :=
  fun surroundings state =>
    match first.run surroundings state with
    | (.ok a, state, events) => ((next a).run surroundings state).after events
    | (.error e, state, events) => (.error e, state, events)

instance : Monad (Session σ) where
  pure a := fun _ state => (.ok a, state, [])
  bind := Session.bind

@[simp] theorem run_pure (a : α) (surroundings : Surroundings σ) (state : σ) :
    (pure a : Session σ α).run surroundings state = (.ok a, state, []) := rfl

/-- What follows a first activity runs on the state that the first one left, unless the first
failed. -/
theorem run_bind (first : Session σ α) (next : α → Session σ β) (surroundings : Surroundings σ)
    (state : σ) :
    (first >>= next).run surroundings state =
      match first.run surroundings state with
      | (.ok a, after, events) => ((next a).run surroundings after).after events
      | (.error e, after, events) => (.error e, after, events) := rfl

/-- What a bind can come to: the first activity fails and the next one is not begun, or the next
one goes on from where the first one ended. -/
theorem run_bind_cases (first : Session σ α) (next : α → Session σ β)
    (surroundings : Surroundings σ) (state : σ) :
    (∃ e after events, first.run surroundings state = (.error e, after, events) ∧
      (first >>= next).run surroundings state = (.error e, after, events)) ∨
    (∃ a after events, first.run surroundings state = (.ok a, after, events) ∧
      (first >>= next).run surroundings state =
        ((next a).run surroundings after).after events) := by
  rw [run_bind]
  obtain ⟨result, after, events⟩ := first.run surroundings state
  cases result with
  | error e => exact .inl ⟨e, after, events, rfl, rfl⟩
  | ok a => exact .inr ⟨a, after, events, rfl, rfl⟩

/-- An activity is what its runs come to. -/
theorem ext {first second : Session σ α}
    (same : ∀ surroundings state, first.run surroundings state = second.run surroundings state) :
    first = second :=
  funext fun surroundings => funext fun state => same surroundings state

/-- A mapped activity is the activity followed by the function. -/
theorem map_eq_bind (f : α → β) (activity : Session σ α) :
    f <$> activity = activity >>= fun a => pure (f a) := rfl

/-- A function of the result leaves the state and the events as they are. -/
theorem run_map (f : α → β) (activity : Session σ α) (surroundings : Surroundings σ) (state : σ) :
    (f <$> activity).run surroundings state =
      ((activity.run surroundings state).result.map f, (activity.run surroundings state).state,
        (activity.run surroundings state).events) := by
  rw [map_eq_bind]
  obtain ⟨e, after, events, ran, bound⟩ | ⟨a, after, events, ran, bound⟩ :=
    run_bind_cases activity (fun a => pure (f a)) surroundings state
  · rw [bound, ran]
    rfl
  · rw [bound, ran]
    exact congrArg (fun events => (Except.ok (f a), after, events)) (List.append_nil events)

/-- An activity the result of which is not wanted. -/
theorem discard_eq_bind (activity : Session σ α) :
    discard activity = activity >>= fun _ => pure () := rfl

instance : LawfulMonad (Session σ) := by
  refine LawfulMonad.mk' (Session σ) ?_ ?_ ?_
  · intro α activity
    apply ext
    intro surroundings state
    rw [run_map]
    obtain ⟨result, after, events⟩ := activity.run surroundings state
    cases result <;> rfl
  · intro α β a next
    rfl
  · intro α β γ first second third
    apply ext
    intro surroundings state
    rw [run_bind, run_bind, run_bind]
    obtain ⟨result, after, events⟩ := first.run surroundings state
    cases result with
    | error e => rfl
    | ok a =>
      dsimp only
      rw [run_bind]
      obtain ⟨result, last, more⟩ := (second a).run surroundings after
      cases result with
      | error e => rfl
      | ok b => exact (Report.after_after events more _).symm

/-- Ends in an error. -/
def fail (e : SchemaError) : Session σ α := fun _ state => (.error e, state, [])

/-- Writes down a note. -/
def note (note : Note) : Session σ Unit := fun _ state => (.ok (), state, [.noted note])

/-- Makes a call and writes it down. -/
def call (made : Call) (act : Connection σ → σ → α × σ) : Session σ α := fun surroundings state =>
  let (answer, next) := act surroundings.connection state
  (.ok answer, next, [.called made])

/-- The error that a failure of a statement is. -/
def failureOf (sql : String) (failure : StatementFailure) : SchemaError :=
  .execution (failure.ofStatement sql)

/-- The value of an answer; a failure is the failure of the statement. -/
def valueOf (sql : String) : Answer α → Session σ α
  | .ok a => pure a
  | .error failure => fail (failureOf sql failure)

/-- The settings of the session. -/
def settings : Session σ Settings := fun surroundings state =>
  (.ok surroundings.settings, state, [])

/-- Whether the connection simulates. -/
def isSimulating : Session σ Bool := fun surroundings state =>
  (.ok (surroundings.connection.isSimulating state), state, [])

@[simp] theorem run_note (made : Note) (surroundings : Surroundings σ) (state : σ) :
    (note made).run surroundings state = (.ok (), state, [.noted made]) := rfl

@[simp] theorem run_call (made : Call) (act : Connection σ → σ → α × σ)
    (surroundings : Surroundings σ) (state : σ) :
    (call made act).run surroundings state =
      (.ok (act surroundings.connection state).1, (act surroundings.connection state).2,
        [.called made]) := rfl

/-- To ask whether the connection simulates changes nothing. -/
theorem run_isSimulating (surroundings : Surroundings σ) (state : σ) :
    (isSimulating : Session σ Bool).run surroundings state =
      (.ok (surroundings.connection.isSimulating state), state, []) := rfl

/-- An answer is a value, or the failure of the statement that it answers. -/
theorem run_valueOf (sql : String) (answer : Answer α) (surroundings : Surroundings σ) (state : σ) :
    (valueOf sql answer : Session σ α).run surroundings state =
      (answer.mapError (failureOf sql), state, []) := by
  cases answer <;> rfl

/-- Shows a statement in place of running it. -/
def showStatement (sql : String) : Session σ Unit := do
  note (.simulated sql)
  call (.output sql) fun connection state => ((), connection.writeOutput sql state)

/-- A statement that is shown is noted and written out, and cannot fail. -/
@[simp] theorem run_showStatement (sql : String) (surroundings : Surroundings σ) (state : σ) :
    (showStatement sql).run surroundings state =
      (.ok (), surroundings.connection.writeOutput sql state,
        [.noted (.simulated sql), .called (.output sql)]) := rfl

/-- Runs a statement and answers the number of affected rows, or shows it where the connection
simulates. -/
def execute (sql : String) : Session σ Nat := do
  if ← isSimulating then
    showStatement sql
    return 0
  note (.statement sql 0)
  valueOf sql (← call (.execute sql) fun connection => connection.execute sql)

/-- Where the connection simulates, a statement is shown and no row is affected. -/
theorem run_execute_of_simulating (sql : String) {surroundings : Surroundings σ} {state : σ}
    (simulating : surroundings.connection.isSimulating state = true) :
    (execute sql).run surroundings state =
      (.ok 0, surroundings.connection.writeOutput sql state,
        [.noted (.simulated sql), .called (.output sql)]) := by
  rw [execute, run_bind, run_isSimulating, simulating]
  rfl

/-- Where the connection does not simulate, it is given the statement, and its failure is the
failure of the statement. -/
theorem run_execute_of_live (sql : String) {surroundings : Surroundings σ} {state : σ}
    (live : surroundings.connection.isSimulating state = false) :
    (execute sql).run surroundings state =
      ((surroundings.connection.execute sql state).1.mapError (failureOf sql),
        (surroundings.connection.execute sql state).2,
        [.noted (.statement sql 0), .called (.execute sql)]) := by
  rw [execute, run_bind, run_isSimulating, live]
  simp only [Bool.false_eq_true, ↓reduceIte, run_bind, run_note, run_call, run_valueOf]
  rfl

/-- Runs statements one after another. -/
def executeAll (statements : List String) : Session σ Unit :=
  statements.forM fun sql => discard (execute sql)

/-- Runs a statement with bound values. -/
def executeBound (sql : String) (values : List Json) : Session σ Nat := do
  note (.statement sql values.length)
  valueOf sql
    (← call (.executeBound sql values) fun connection => connection.executeBound sql values)

/-- A statement with bound values is noted with their number and sent. -/
theorem run_executeBound (sql : String) (values : List Json) (surroundings : Surroundings σ)
    (state : σ) :
    (executeBound sql values).run surroundings state =
      ((surroundings.connection.executeBound sql values state).1.mapError (failureOf sql),
        (surroundings.connection.executeBound sql values state).2,
        [.noted (.statement sql values.length), .called (.executeBound sql values)]) := by
  simp only [executeBound, run_bind, run_note, run_call, run_valueOf]
  rfl

/-- The answer to a query, a failure included. -/
def answerTo (sql : String) : Session σ (Answer (List Row)) := do
  note (.statement sql 0)
  call (.query sql) fun connection => connection.fetchAll sql

/-- A query is noted and sent, and its answer is not looked at. -/
theorem run_answerTo (sql : String) (surroundings : Surroundings σ) (state : σ) :
    (answerTo sql).run surroundings state =
      (.ok (surroundings.connection.fetchAll sql state).1,
        (surroundings.connection.fetchAll sql state).2,
        [.noted (.statement sql 0), .called (.query sql)]) := rfl

/-- The rows that answer a query. -/
def fetchAll (sql : String) : Session σ (List Row) := do
  valueOf sql (← answerTo sql)

/-- A query fails where the connection does, with the text of the query. -/
theorem run_fetchAll (sql : String) (surroundings : Surroundings σ) (state : σ) :
    (fetchAll sql).run surroundings state =
      ((surroundings.connection.fetchAll sql state).1.mapError (failureOf sql),
        (surroundings.connection.fetchAll sql state).2,
        [.noted (.statement sql 0), .called (.query sql)]) := by
  simp only [fetchAll, run_bind, run_answerTo, run_valueOf]
  rfl

/-- The first row that answers a query. -/
def fetchRow (sql : String) : Session σ (Option Row) := do
  note (.statement sql 0)
  valueOf sql (← call (.query sql) fun connection => connection.fetchRow sql)

/-- The first row of a query is asked for in the same way, and there may be none. -/
theorem run_fetchRow (sql : String) (surroundings : Surroundings σ) (state : σ) :
    (fetchRow sql).run surroundings state =
      ((surroundings.connection.fetchRow sql state).1.mapError (failureOf sql),
        (surroundings.connection.fetchRow sql state).2,
        [.noted (.statement sql 0), .called (.query sql)]) := by
  simp only [fetchRow, run_bind, run_note, run_call, run_valueOf]
  rfl

end Session

end WarehouseSchema
