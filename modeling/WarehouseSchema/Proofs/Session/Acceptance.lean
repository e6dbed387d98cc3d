import WarehouseSchema.Session

/-!
# Calls that a connection accepts

A connection accepts a call or refuses it, and either leads it to its next state. What comes of
statements that are sent one after another is told by the first of them that is refused: those
before it were accepted, it is the last one that was sent, and the error names it.

`SentInOrder` says so of a report, and `sentInOrder_executeAll` says it of every list of statements,
by induction on those that are still to be sent.
-/

set_option autoImplicit false

namespace WarehouseSchema

/-- The text of the statement or the query that a call is made with. -/
def Call.sql : Call → String
  | .execute sql | .query sql | .executeBound sql _ | .output sql => sql

/-- The statement that a call runs. -/
def Call.executed? : Call → Option String
  | .execute sql => some sql
  | _ => none

/-- The statements that were run, in order. -/
def Report.executed {σ α : Type} (report : Report σ α) : List String :=
  report.calls.filterMap Call.executed?

namespace Connection

variable {σ : Type}

/-- What the connection makes of a call: a failure or nothing, and the state it is left in. A query
is one for all rows. -/
def reply (connection : Connection σ) : Call → σ → Answer Unit × σ
  | .execute sql, state =>
    ((connection.execute sql state).1.map fun _ => (), (connection.execute sql state).2)
  | .query sql, state =>
    ((connection.fetchAll sql state).1.map fun _ => (), (connection.fetchAll sql state).2)
  | .executeBound sql values, state =>
    ((connection.executeBound sql values state).1.map fun _ => (),
      (connection.executeBound sql values state).2)
  | .output sql, state => (.ok (), connection.writeOutput sql state)

/-- The connection accepts calls that are made one after another, and they lead it from one state to
another. -/
inductive Accepts (connection : Connection σ) : List Call → σ → σ → Prop where
  | nil {state : σ} : Accepts connection [] state state
  | cons {call : Call} {calls : List Call} {state next after : σ}
      (accepted : connection.reply call state = (.ok (), next))
      (rest : Accepts connection calls next after) : Accepts connection (call :: calls) state after

/-- The states that calls lead the connection to, accepted or not. -/
inductive LeadsTo (connection : Connection σ) : σ → σ → Prop where
  | refl (state : σ) : LeadsTo connection state state
  | call {state after : σ} (call : Call)
      (rest : LeadsTo connection (connection.reply call state).2 after) :
      LeadsTo connection state after

/-- No call leads the connection to a state in which it simulates. -/
def StaysLive (connection : Connection σ) (state : σ) : Prop :=
  ∀ after, connection.LeadsTo state after → connection.isSimulating after = false

variable {connection : Connection σ} {state : σ}

/-- A connection that stays live is live. -/
theorem StaysLive.now (live : connection.StaysLive state) : connection.isSimulating state = false :=
  live state (.refl state)

/-- It stays so after any call. -/
theorem StaysLive.reply (live : connection.StaysLive state) (call : Call) :
    connection.StaysLive (connection.reply call state).2 :=
  fun after leads => live after (.call call leads)

/-- Calls that are accepted after calls that were accepted are accepted together. -/
theorem Accepts.append {first second : List Call} {next after : σ}
    (accepted : connection.Accepts first state next)
    (rest : connection.Accepts second next after) :
    connection.Accepts (first ++ second) state after := by
  induction accepted with
  | nil => exact rest
  | cons head _ ih => exact .cons head (ih rest)

/-- The reply to a statement that was accepted forgets how many rows it changed. -/
theorem reply_execute_of_ok {sql : String} {count : Nat} {next : σ}
    (accepted : connection.execute sql state = (.ok count, next)) :
    connection.reply (.execute sql) state = (.ok (), next) := by
  rw [Connection.reply, accepted]
  rfl

/-- The connection accepts every statement. -/
def AcceptsStatements (connection : Connection σ) : Prop :=
  ∀ sql state, ∃ count, (connection.execute sql state).1 = .ok count

/-- A connection that accepts every statement accepts any list of them. -/
theorem AcceptsStatements.accepts (obliging : connection.AcceptsStatements)
    (statements : List String) (state : σ) :
    ∃ after, connection.Accepts (statements.map .execute) state after := by
  induction statements generalizing state with
  | nil => exact ⟨state, .nil⟩
  | cons sql rest ih =>
    obtain ⟨count, accepted⟩ := obliging sql state
    obtain ⟨after, later⟩ := ih (connection.execute sql state).2
    exact ⟨after, .cons (reply_execute_of_ok (Prod.ext accepted rfl)) later⟩

/-- The reply to a statement that was refused is the refusal. -/
theorem reply_execute_of_error {sql : String} {refusal : StatementFailure} {next : σ}
    (refused : connection.execute sql state = (.error refusal, next)) :
    connection.reply (.execute sql) state = (.error refusal, next) := by
  rw [Connection.reply, refused]
  rfl

/-- The reply to a query that was answered forgets the rows. -/
theorem reply_query_of_ok {sql : String} {rows : List Row} {next : σ}
    (answered : connection.fetchAll sql state = (.ok rows, next)) :
    connection.reply (.query sql) state = (.ok (), next) := by
  rw [Connection.reply, answered]
  rfl

/-- The reply to a query that was refused is the refusal. -/
theorem reply_query_of_error {sql : String} {refusal : StatementFailure} {next : σ}
    (refused : connection.fetchAll sql state = (.error refusal, next)) :
    connection.reply (.query sql) state = (.error refusal, next) := by
  rw [Connection.reply, refused]
  rfl

end Connection

/-- The last of the calls is the one that the connection refused, and the failure names its text. -/
def StatementFailure.IsOfLast {σ : Type} (failure : StatementFailure) (connection : Connection σ)
    (state : σ) (calls : List Call) : Prop :=
  ∃ earlier last before refusal, calls = earlier ++ [last] ∧
    connection.Accepts earlier state before ∧
    (connection.reply last before).1 = .error refusal ∧ failure = refusal.ofStatement last.sql

namespace StatementFailure.IsOfLast

variable {σ : Type} {failure : StatementFailure} {connection : Connection σ} {state next : σ}

/-- A call that is refused is the last one. -/
theorem single {call : Call} {refusal : StatementFailure}
    (refused : connection.reply call state = (.error refusal, next)) :
    (refusal.ofStatement call.sql).IsOfLast connection state [call] :=
  ⟨[], call, state, refusal, rfl, .nil, congrArg Prod.fst refused, rfl⟩

/-- What was accepted before does not change which call is the last one. -/
theorem after {first calls : List Call} (accepted : connection.Accepts first state next)
    (last : failure.IsOfLast connection next calls) :
    failure.IsOfLast connection state (first ++ calls) := by
  obtain ⟨earlier, failing, before, refusal, rfl, rest, refused, named⟩ := last
  exact ⟨first ++ earlier, failing, before, refusal, (List.append_assoc _ _ _).symm,
    accepted.append rest, refused, named⟩

end StatementFailure.IsOfLast

/-! ## Statements that are sent one after another -/

/-- What can come of statements that are sent one after another: all are accepted, or one is
refused and those after it are not sent. -/
inductive SentInOrder {σ : Type} (connection : Connection σ) (statements : List String) (state : σ)
    (report : Report σ Unit) : Prop where
  | all {after : σ} (accepted : connection.Accepts (statements.map .execute) state after)
      (calls : report.calls = statements.map .execute) (succeeded : report.result = .ok ())
  | upTo {earlier rest : List String} {refused : String} {failure : StatementFailure}
      (unaccepted : ∀ after, ¬ connection.Accepts (statements.map .execute) state after)
      (order : statements = (earlier ++ [refused]) ++ rest)
      (calls : report.calls = (earlier ++ [refused]).map .execute)
      (failed : report.result = .error (.execution failure))
      (last : failure.IsOfLast connection state report.calls)

namespace SentInOrder

variable {σ : Type} {connection : Connection σ} {statements : List String} {state : σ}
  {report : Report σ Unit}

/-- The first statement is refused, and no other is sent. -/
theorem refused {sql : String} {refusal : StatementFailure} {next : σ}
    (reply : connection.reply (.execute sql) state = (.error refusal, next))
    (rest : List String) :
    SentInOrder connection (sql :: rest) state
      (.error (Session.failureOf sql refusal), next,
        [.noted (.statement sql 0), .called (.execute sql)]) := by
  have order : sql :: rest = ([] ++ [sql]) ++ rest := rfl
  refine .upTo ?_ order rfl rfl (.single reply)
  intro after accepted
  cases accepted with
  | cons head _ =>
    rw [reply] at head
    cases head

/-- One more statement is accepted before the others are sent. -/
theorem cons {sql : String} {next : σ}
    (head : connection.reply (.execute sql) state = (.ok (), next))
    (sent : SentInOrder connection statements next report) :
    SentInOrder connection (sql :: statements) state
      (report.after [.noted (.statement sql 0), .called (.execute sql)]) := by
  have made : (report.after [.noted (.statement sql 0), .called (.execute sql)]).calls =
      [.execute sql] ++ report.calls := Report.calls_after _ report
  cases sent with
  | all rest calls succeeded =>
    refine .all (.cons head rest) ?_ succeeded
    rw [made, calls]
    rfl
  | @upTo earlier others refused failure unaccepted order calls failed last =>
    -- The refused statement is the same one, with one more before it.
    have longer : sql :: statements = ((sql :: earlier) ++ [refused]) ++ others := by
      rw [order]
      rfl
    refine .upTo ?_ longer ?_ failed ?_
    · intro after accepted
      cases accepted with
      | cons other rest =>
        rw [head] at other
        cases other
        exact unaccepted after rest
    · rw [made, calls]
      rfl
    · rw [made]
      exact last.after (.cons head .nil)

/-- The statements among calls that run statements are these statements. -/
theorem filterMap_executed? (sqls : List String) :
    (sqls.map Call.execute).filterMap Call.executed? = sqls := by
  rw [List.filterMap_map]
  exact List.filterMap_some

/-- What was run of a list of statements is a beginning of it. -/
theorem executed_prefix (sent : SentInOrder connection statements state report) :
    report.executed <+: statements := by
  cases sent with
  | all accepted calls succeeded =>
    have all : report.executed = statements := by
      rw [Report.executed, calls, filterMap_executed?]
    exact ⟨[], (List.append_nil _).trans all⟩
  | upTo unaccepted order calls failed last =>
    rw [Report.executed, calls, filterMap_executed?, order]
    exact List.prefix_append _ _

/-- A list of statements succeeds exactly where the connection accepts all of them in order. -/
theorem succeeds_iff (sent : SentInOrder connection statements state report) :
    report.result = .ok () ↔
      ∃ after, connection.Accepts (statements.map .execute) state after := by
  cases sent with
  | all accepted calls succeeded => exact ⟨fun _ => ⟨_, accepted⟩, fun _ => succeeded⟩
  | upTo unaccepted order calls failed last =>
    constructor
    · intro succeeded
      cases failed.symm.trans succeeded
    · rintro ⟨after, accepted⟩
      exact absurd accepted (unaccepted after)

/-- A list that succeeded was sent whole, and nothing else was. -/
theorem calls_of_succeeded (sent : SentInOrder connection statements state report)
    (succeeded : report.result = .ok ()) : report.calls = statements.map .execute := by
  cases sent with
  | all accepted calls _ => exact calls
  | upTo unaccepted order calls failed last => cases failed.symm.trans succeeded

/-- A list that succeeded was run whole. -/
theorem executed_of_succeeded (sent : SentInOrder connection statements state report)
    (succeeded : report.result = .ok ()) : report.executed = statements := by
  rw [Report.executed, sent.calls_of_succeeded succeeded, filterMap_executed?]

end SentInOrder

namespace Session

variable {σ : Type}

/-- What comes of sending statements one after another; the induction is on those that are still to
be sent, from whichever state those before them led to. -/
theorem sentInOrder_executeAll (statements : List String) {surroundings : Surroundings σ}
    {state : σ} (live : surroundings.connection.StaysLive state) :
    SentInOrder surroundings.connection statements state
      ((executeAll statements).run surroundings state) := by
  induction statements generalizing state with
  | nil => exact .all .nil rfl rfl
  | cons sql rest ih =>
    have later := live.reply (.execute sql)
    have sends := run_execute_of_live sql live.now
    show SentInOrder _ _ _ ((discard (execute sql) >>= fun _ => executeAll rest).run _ _)
    rw [discard_eq_bind, bind_assoc, run_bind, sends]
    rcases answered : surroundings.connection.execute sql state with ⟨refusal | count, next⟩
    · exact .refused (Connection.reply_execute_of_error answered) rest
    · have head := Connection.reply_execute_of_ok answered
      rw [head] at later
      exact .cons head (ih later)

/-- A connection that accepts every statement is sent all of them. -/
theorem run_executeAll_of_obliging (statements : List String) {surroundings : Surroundings σ}
    {state : σ} (live : surroundings.connection.StaysLive state)
    (obliging : surroundings.connection.AcceptsStatements) :
    ((executeAll statements).run surroundings state).result = .ok () ∧
      ((executeAll statements).run surroundings state).calls = statements.map .execute := by
  have sent := sentInOrder_executeAll statements live
  have succeeded := sent.succeeds_iff.2 (obliging.accepts statements state)
  exact ⟨succeeded, sent.calls_of_succeeded succeeded⟩

end Session

end WarehouseSchema
