import WarehouseSchema.Proofs.Session.Acceptance
import WarehouseSchema.Proofs.Session.Alteration

/-!
# What has been done when an alteration is interrupted

Any call may fail, and a failure ends the operation.

## What is proved

`sends_the_plan_until_a_failure`: on a connection that sends, the statements that were sent are the
first ones of the plan, the operation succeeds where all of them are accepted, and where the
connection makes it fail the last call is the one that failed, and the error names its text.

`Alteration.Ends` tells the three ways in which an alteration ends, and each part of the law is read
off them.
-/

set_option autoImplicit false

namespace WarehouseSchema

namespace Alteration

variable {σ : Type} {alteration : Alteration} {connection : Connection σ} {state : σ}

/-- A question has one answer. -/
theorem Answered.unique {first second : List Row} {start other : σ}
    (one : alteration.Answered connection state first start)
    (another : alteration.Answered connection state second other) :
    first = second ∧ start = other := by
  obtain ⟨question, plan⟩ := alteration
  cases question with
  | none => exact ⟨one.1.trans another.1.symm, one.2.trans another.2.symm⟩
  | some sql =>
    have same := one.symm.trans another
    cases same
    exact ⟨rfl, rfl⟩

/-- An answer plans at most one list of statements. -/
theorem Plans.unique {first second : List String} {start other : σ}
    (one : alteration.Plans connection state first start)
    (another : alteration.Plans connection state second other) :
    first = second ∧ start = other := by
  obtain ⟨rows, answered, planned⟩ := one
  obtain ⟨others, answeredToo, plannedToo⟩ := another
  obtain ⟨rfl, rfl⟩ := answered.unique answeredToo
  rw [planned] at plannedToo
  exact ⟨Except.ok.inj plannedToo, rfl⟩

/-- What can come of an alteration: the question fails, or nothing is planned with its answer, or
the planned statements are sent after it. -/
inductive Ends (alteration : Alteration) (connection : Connection σ) (state : σ)
    (report : Report σ Unit) : Prop where
  | unanswered {sql : String} {next : σ} {refusal : StatementFailure}
      (unplanned : ∀ statements start, ¬ alteration.Plans connection state statements start)
      (refused : connection.reply (.query sql) state = (.error refusal, next))
      (calls : report.calls = [.query sql])
      (failed : report.result = .error (Session.failureOf sql refusal))
  | unplanned {rows : List Row} {start : σ} {e : SchemaError}
      (answered : alteration.Answered connection state rows start)
      (nothing : alteration.plan rows = .error e) (executed : report.executed = [])
      (failed : report.result = .error e)
  | sent {statements : List String} {start : σ} {asking : List Call} {sending : Report σ Unit}
      (plans : alteration.Plans connection state statements start)
      (accepted : connection.Accepts asking state start)
      (asks : asking.filterMap Call.executed? = [])
      (inOrder : SentInOrder connection statements start sending)
      (calls : report.calls = asking ++ sending.calls) (result : report.result = sending.result)

/-- An alteration that was answered ends as the statements that were planned over the answer do. -/
theorem Ends.of_answered {surroundings : Surroundings σ} {rows : List Row} {start : σ}
    {asking : List Call} {report : Report σ Unit}
    (live : surroundings.connection.StaysLive start)
    (answered : alteration.Answered surroundings.connection state rows start)
    (accepted : surroundings.connection.Accepts asking state start)
    (asks : asking.filterMap Call.executed? = [])
    (calls : report.calls = asking ++ ((alteration.send rows).run surroundings start).calls)
    (result : report.result = ((alteration.send rows).run surroundings start).result) :
    alteration.Ends surroundings.connection state report := by
  unfold send at calls result
  cases planned : alteration.plan rows with
  | error e =>
    rw [planned] at calls result
    refine .unplanned answered planned ?_ result
    rw [Report.executed, calls, List.filterMap_append, asks]
    rfl
  | ok statements =>
    rw [planned] at calls result
    exact .sent ⟨rows, answered, planned⟩ accepted asks
      (Session.sentInOrder_executeAll statements live) calls result

/-- Every alteration ends in one of the ways that there are. -/
theorem ends_carryOut (alteration : Alteration) {surroundings : Surroundings σ} {state : σ}
    (live : surroundings.connection.StaysLive state) :
    alteration.Ends surroundings.connection state
      (alteration.carryOut.run surroundings state) := by
  obtain ⟨question, plan⟩ := alteration
  cases question with
  | none => exact .of_answered live ⟨rfl, rfl⟩ .nil rfl rfl rfl
  | some sql =>
    have later := live.reply (.query sql)
    show Ends _ _ _ ((Session.fetchAll sql >>= send ⟨some sql, plan⟩).run _ _)
    rw [Session.run_bind, Session.run_fetchAll]
    rcases answered : surroundings.connection.fetchAll sql state with ⟨refusal | rows, next⟩
    · refine .unanswered ?_ (Connection.reply_query_of_error answered) rfl rfl
      rintro statements start ⟨rows, same, -⟩
      cases answered.symm.trans same
    · have accepted := Connection.reply_query_of_ok answered
      rw [accepted] at later
      exact .of_answered later answered (.cons accepted .nil) rfl (Report.calls_after _ _) rfl

namespace Ends

variable {report : Report σ Unit} {statements : List String} {start : σ}

/-- A plan is sent as its statements are sent one after another. -/
theorem sent_of_plans (ends : alteration.Ends connection state report)
    (plans : alteration.Plans connection state statements start) :
    ∃ sending : Report σ Unit, SentInOrder connection statements start sending ∧
      report.executed = sending.executed ∧ report.result = sending.result := by
  cases ends with
  | unanswered unplanned refused calls failed => exact absurd plans (unplanned statements start)
  | unplanned answered nothing executed failed =>
    obtain ⟨rows, answeredToo, planned⟩ := plans
    obtain ⟨rfl, rfl⟩ := answered.unique answeredToo
    cases nothing.symm.trans planned
  | @sent other _ asking sending plansToo accepted asks inOrder calls result =>
    -- The connection answers once, so that there is one plan.
    obtain ⟨rfl, rfl⟩ := plans.unique plansToo
    refine ⟨sending, inOrder, ?_, result⟩
    rw [Report.executed, calls, List.filterMap_append, asks]
    rfl

/-- Where nothing could be planned, nothing was run and the alteration failed. -/
theorem failed_of_unplanned (ends : alteration.Ends connection state report)
    (without : ∀ statements start, ¬ alteration.Plans connection state statements start) :
    report.executed = [] ∧ ∃ e, report.result = .error e := by
  cases ends with
  | unanswered unplanned refused calls failed =>
    rw [Report.executed, calls]
    exact ⟨rfl, _, failed⟩
  | unplanned answered nothing executed failed => exact ⟨executed, _, failed⟩
  | sent plans accepted asks inOrder calls result => exact absurd plans (without _ _)

/-- Where the connection makes an alteration fail, it has refused the last call. -/
theorem isOfLast (ends : alteration.Ends connection state report)
    (computed : ∀ rows, FailsOnly (fun e => e.isExecution = false) (alteration.plan rows))
    {failure : StatementFailure} (failed : report.result = .error (.execution failure)) :
    failure.IsOfLast connection state report.calls := by
  cases ends with
  | @unanswered sql next refusal unplanned refused calls result =>
    cases result.symm.trans failed
    rw [calls]
    exact .single refused
  | unplanned answered nothing executed result =>
    cases result.symm.trans failed
    cases computed _ _ nothing
  | sent plans accepted asks inOrder calls result =>
    rw [result] at failed
    rw [calls]
    cases inOrder with
    | all accepted calls succeeded => cases succeeded.symm.trans failed
    | upTo unaccepted order calls refused last =>
      cases refused.symm.trans failed
      exact last.after accepted

end Ends

end Alteration

/-- A connection that answers every query with the same rows and refuses one statement. -/
def Connection.refusing (refused : String) (rows : List Row) : Connection Unit where
  execute sql state := (if sql = refused then .error (.ofReason "refused") else .ok 0, state)
  fetchAll _ state := (.ok rows, state)
  executeBound _ values state := (.ok values.length, state)
  writeOutput _ state := state

theorem Connection.staysLive_refusing (refused : String) (rows : List Row) :
    (Connection.refusing refused rows).StaysLive () :=
  fun _ _ => rfl

namespace Operation

/-- A failure ends an operation that alters the schema, and it is told what was done until then. The
statements that were run are the first ones of the plan; without a plan none was run. The operation
succeeds exactly where all of the plan is accepted, and then all of it was run. Where the connection
makes it fail, the last call is the one that failed, and the error names its text. -/
theorem sends_the_plan_until_a_failure {σ : Type} {operation : Operation}
    {planning : Except SchemaError Alteration} (alters : operation.alteration? = some planning)
    (surroundings : Surroundings σ) {state : σ}
    (live : surroundings.connection.StaysLive state) :
    let connection := surroundings.connection
    let report := operation.perform.run surroundings state
    (∀ alteration statements start, planning = .ok alteration →
        alteration.Plans connection state statements start →
          report.executed <+: statements ∧
            ((∃ outcome, report.result = .ok outcome) ↔
              ∃ after, connection.Accepts (statements.map .execute) start after) ∧
            ((∃ outcome, report.result = .ok outcome) → report.executed = statements)) ∧
      ((∀ alteration statements start, planning = .ok alteration →
          ¬ alteration.Plans connection state statements start) →
        report.executed = [] ∧ ∃ e, report.result = .error e) ∧
      ∀ failure, report.result = .error (.execution failure) →
        failure.IsOfLast connection state report.calls := by
  intro connection report
  -- The operation adds nothing to its alteration but the outcome: all is shown of the alteration.
  let carried := (Session.ofExcept planning >>= Alteration.carryOut).run surroundings state
  have ran : report = (carried.result.map fun _ => .done, carried.state, carried.events) := by
    show operation.perform.run surroundings state = _
    rw [perform_of_alteration? alters, Session.run_map]
  have calls : report.calls = carried.calls := by rw [ran]; rfl
  have executed : report.executed = carried.executed := by rw [ran]; rfl
  have result : report.result = carried.result.map fun _ => .done := by rw [ran]; rfl
  have succeeds : (∃ outcome, report.result = .ok outcome) ↔ carried.result = .ok () := by
    rw [result]
    cases carried.result with
    | error e => simp [Except.map]
    | ok _ => simp [Except.map]
  have fails (e : SchemaError) : report.result = .error e ↔ carried.result = .error e := by
    rw [result]
    cases carried.result with
    | error cause => simp [Except.map]
    | ok _ => simp [Except.map]
  simp only [succeeds, fails, executed, calls]
  cases planning with
  | error e =>
    have refused : carried.result = .error e := rfl
    refine ⟨fun _ _ _ planned => (nomatch planned), fun _ => ⟨rfl, e, refused⟩, ?_⟩
    -- The connection was not called, so that it cannot be what failed.
    intro failure failed
    cases refused.symm.trans failed
    cases failsOnly_planning alters [] _ rfl
  | ok alteration =>
    have ends : alteration.Ends connection state carried := alteration.ends_carryOut live
    refine ⟨?_, ?_, ?_⟩
    · rintro _ statements start ⟨⟩ plans
      obtain ⟨sending, inOrder, executed, result⟩ := ends.sent_of_plans plans
      rw [executed, result]
      exact ⟨inOrder.executed_prefix, inOrder.succeeds_iff, inOrder.executed_of_succeeded⟩
    · intro without
      exact ends.failed_of_unplanned fun statements start => without alteration statements start rfl
    · intro failure failed
      exact ends.isOfLast (failsOnly_planning alters) failed

/-- The old primary key of a table is dropped, and the new one is refused. -/
theorem sends_the_plan_until_a_failure_at_replaced_key :
    let key : Row := .ofFields [("constraint_name", .string "pk"), ("column_name", .string "code")]
    let drop := "alter table \"orders\" drop primary key"
    let add := "alter table \"orders\" add primary key (\"id\")"
    let connection := Connection.refusing add [key]
    let report := (Operation.changePrimaryKey "orders" (.single "id")).perform.run
      ⟨connection, .standard⟩ ()
    (Alteration.replacingKey "orders" (.single "id")).Plans connection () [drop, add] () ∧
      report.executed <+: [drop, add] ∧
      (¬ ∃ after, connection.Accepts [.execute drop, .execute add] () after) ∧
      report.result = .error (.execution ⟨"refused", some add⟩) ∧
      (StatementFailure.mk "refused" (some add)).IsOfLast connection () report.calls := by
  intro key drop add connection report
  have plans : (Alteration.replacingKey "orders" (.single "id")).Plans connection () [drop, add]
      () := ⟨[key], rfl, by rfl⟩
  have failed : report.result = .error (.execution ⟨"refused", some add⟩) := by rfl
  have alters : (Operation.changePrimaryKey "orders" (.single "id")).alteration? =
      some (.ok (.replacingKey "orders" (.single "id"))) := rfl
  obtain ⟨planned, -, last⟩ := sends_the_plan_until_a_failure alters ⟨connection, .standard⟩
    (Connection.staysLive_refusing add [key])
  obtain ⟨sent, succeeds, -⟩ := planned _ _ _ rfl plans
  refine ⟨plans, sent, fun accepted => ?_, failed, last _ failed⟩
  obtain ⟨outcome, succeeded⟩ := succeeds.2 accepted
  cases failed.symm.trans succeeded

end Operation

end WarehouseSchema
