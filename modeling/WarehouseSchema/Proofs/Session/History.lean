import WarehouseSchema.Operation
import WarehouseSchema.Proofs.Traversal

/-!
# The history as a session reads it

The history is asked for by one query and read from the rows of the answer. Different rows may tell
of the same version, spelled as a number or as a text; each version is kept once, where it was first
told of, with what was told of it last.

## What is proved

`history_tells_what_was_applied`: what is asked, and what comes of it where no order is set, where
the query fails and where it is answered. Only a failing query is passed over while the connection
simulates; an answer that cannot be read is an error there too.

`Tells` says what a row tells of a migration, and `Recorded` what a history holds of its rows.
-/

set_option autoImplicit false

namespace WarehouseSchema

namespace History

/-- The version that a row tells of. -/
def versionIn? (row : Row) : Option Int64 := (row.get? "version").bind versionOf?

/-- Every row tells of a version. -/
def Versioned (rows : List Row) : Prop := ∀ row ∈ rows, versionIn? row ≠ none

instance (rows : List Row) : Decidable (Versioned rows) :=
  inferInstanceAs (Decidable (∀ row ∈ rows, _))

/-- What a row tells of the migration that is read from it. A breakpoint that is not told of is that
of a null. -/
structure Tells (row : Row) (entry : AppliedMigration) : Prop where
  version : versionIn? row = some entry.version
  name : entry.name = row.text? "migration_name"
  startTime : entry.startTime = row.text? "start_time"
  endTime : entry.endTime = row.text? "end_time"
  breakpoint : entry.breakpoint = setsBreakpoint ((row.get? "breakpoint").getD .null)

/-- The history has the versions of the rows in order of first appearance, and of each version what
the last row of that version tells. -/
structure Recorded (rows : List Row) (history : List AppliedMigration) : Prop where
  versions : history.map (·.version) = (rows.filterMap versionIn?).eraseDups
  entries : ∀ entry ∈ history, ∃ before row after, rows = before ++ row :: after ∧
    Tells row entry ∧ ∀ later ∈ after, versionIn? later ≠ some entry.version

/-! ## Rows -/

/-- A row is read as the entry that it tells, and as no other. -/
theorem entryOf_eq_ok {row : Row} {entry : AppliedMigration} :
    entryOf row = .ok entry ↔ Tells row entry := by
  rw [entryOf, ← versionIn?]
  constructor
  · intro read
    split at read
    · cases read
    · rename_i version told
      cases read
      exact ⟨told, rfl, rfl, rfl, rfl⟩
  · rintro ⟨version, name, startTime, endTime, breakpoint⟩
    rw [version, ← name, ← startTime, ← endTime, ← breakpoint]

/-- A row is refused exactly where it has no version, and the failure quotes it. -/
theorem entryOf_eq_error {row : Row} {e : SchemaError} :
    entryOf row = .error e ↔ versionIn? row = none ∧ e = .metadata (.versionMissing row) := by
  rw [entryOf, ← versionIn?]
  cases versionIn? row with
  | none =>
    constructor
    · intro refused
      exact ⟨rfl, (Except.error.inj refused).symm⟩
    · rintro ⟨-, rfl⟩
      rfl
  | some version => exact ⟨fun refused => (nomatch refused), fun missing => (nomatch missing.1)⟩

/-- Only the version of a row decides whether the row can be read. -/
theorem exists_entryOf_iff {row : Row} :
    (∃ entry, entryOf row = .ok entry) ↔ versionIn? row ≠ none := by
  cases read : entryOf row with
  | ok entry =>
    rw [(entryOf_eq_ok.1 read).version]
    exact iff_of_true ⟨entry, rfl⟩ (Option.some_ne_none _)
  | error e =>
    rw [(entryOf_eq_error.1 read).1]
    exact iff_of_false (fun ⟨_, read⟩ => nomatch read) fun told => told rfl

/-! ## Entries -/

/-- The history that entries make up, one after another. -/
def recordAll (entries : List AppliedMigration) : List AppliedMigration :=
  entries.foldl (fun history entry => record entry history) []

/-- Versions are recorded in the order of their first appearance. -/
theorem versions_recordAll (entries : List AppliedMigration) :
    (recordAll entries).map (·.version) = (entries.map (·.version)).eraseDups :=
  Traversal.keys_foldl (List.map (·.version)) (·.version)
    (fun history entry => versions_record entry history) rfl entries

/-- A version leads to the last entry of that version. -/
theorem find?_recordAll (entries : List AppliedMigration) (version : Int64) :
    (recordAll entries).find? (·.version = version) =
      entries.reverse.find? (·.version = version) := by
  induction entries using List.reverseRecOn with
  | nil => rfl
  | append_singleton entries entry ih =>
    rw [recordAll, List.foldl_concat, find?_record, ← recordAll, ih, List.reverse_concat,
      List.find?_cons]
    by_cases same : entry.version = version <;> simp [same]

/-- What is recorded is the last entry of its version. The versions are distinct, so a search for
the version finds it. -/
theorem exists_split_of_mem_recordAll {entries : List AppliedMigration} {entry : AppliedMigration}
    (mem : entry ∈ recordAll entries) :
    ∃ before after, entries = before ++ entry :: after ∧
      ∀ later ∈ after, later.version ≠ entry.version := by
  have distinct : ((recordAll entries).map (·.version)).Nodup := by
    rw [versions_recordAll]
    exact Traversal.nodup_eraseDups _
  obtain ⟨first, rest, split⟩ := List.append_of_mem mem
  rw [split, List.map_append, List.map_cons] at distinct
  have found : (recordAll entries).find? (·.version = entry.version) = some entry := by
    refine List.find?_eq_some_iff_append.2 ⟨decide_eq_true rfl, first, rest, split, ?_⟩
    intro other earlier
    have apart := (List.nodup_append.1 distinct).2.2 other.version
      (List.mem_map_of_mem earlier) entry.version List.mem_cons_self
    exact Bool.not_eq_true' _ ▸ decide_eq_false apart
  rw [find?_recordAll, List.find?_eq_some_iff_append] at found
  obtain ⟨-, after, before, reversed, later⟩ := found
  refine ⟨before.reverse, after.reverse, ?_, ?_⟩
  · simpa using congrArg List.reverse reversed
  · intro other among
    exact of_decide_eq_false (Bool.not_eq_true' _ ▸ later other (List.mem_reverse.1 among))

/-! ## Histories -/

/-- Rows have the versions of the entries that they tell. -/
theorem filterMap_versionIn? {rows : List Row} {entries : List AppliedMigration}
    (told : List.Forall₂ Tells rows entries) :
    rows.filterMap versionIn? = entries.map (·.version) := by
  induction told with
  | nil => rfl
  | cons head _ ih => rw [List.filterMap_cons, head.version, List.map_cons, ih]

/-- What rows tell is recorded as the rule for a history asks. -/
theorem recorded_of_told {rows : List Row} {entries : List AppliedMigration}
    (told : List.Forall₂ Tells rows entries) : Recorded rows (recordAll entries) where
  versions := by rw [versions_recordAll, filterMap_versionIn? told]
  entries := by
    intro entry mem
    obtain ⟨before, after, rfl, last⟩ := exists_split_of_mem_recordAll mem
    obtain ⟨row, rest, tells, others, split⟩ :=
      List.forall₂_cons_right_iff.1 (List.forall₂_drop_append rows before (entry :: after) told)
    refine ⟨rows.take before.length, row, rest, ?_, tells, ?_⟩
    · rw [← split, List.take_append_drop]
    · intro later among same
      obtain ⟨other, amongToo, tellsToo⟩ := Traversal.exists_of_mem_right others.flip among
      exact last other amongToo (Option.some.inj (tellsToo.version.symm.trans same))

/-- Rows that all have a version make up a history. -/
theorem exists_ofRows {rows : List Row} (versioned : Versioned rows) :
    ∃ history, ofRows rows = .ok history ∧ Recorded rows history := by
  obtain ⟨entries, read⟩ := Traversal.exists_mapM_eq_ok.2 fun row mem =>
    exists_entryOf_iff.2 (versioned row mem)
  refine ⟨recordAll entries, ?_, recorded_of_told ?_⟩
  · rw [ofRows, read]
    rfl
  · exact (Traversal.mapM_eq_ok.1 read).imp fun _ _ => entryOf_eq_ok.1

/-- Rows are refused for the first of them that tells of no version. -/
theorem ofRows_eq_error {rows : List Row} {e : SchemaError} :
    ofRows rows = .error e ↔ ∃ before row after, rows = before ++ row :: after ∧
      Versioned before ∧ versionIn? row = none ∧ e = .metadata (.versionMissing row) := by
  rw [ofRows, Traversal.map_eq_error_iff, Traversal.mapM_eq_error]
  simp only [exists_entryOf_iff, entryOf_eq_error, Versioned]

/-- Rows are refused where some row tells of no version, and otherwise they are read. -/
theorem exists_ofRows_eq_error_iff {rows : List Row} :
    (∃ fault, ofRows rows = .error (.metadata fault)) ↔ ∃ row ∈ rows, versionIn? row = none := by
  constructor
  · rintro ⟨fault, refused⟩
    obtain ⟨before, row, after, rfl, -, unversioned, -⟩ := ofRows_eq_error.1 refused
    exact ⟨row, List.mem_append_right _ List.mem_cons_self, unversioned⟩
  · rintro ⟨row, mem, unversioned⟩
    cases told : rows.mapM entryOf with
    | ok entries =>
      have read := Traversal.exists_mapM_eq_ok.1 ⟨entries, told⟩ row mem
      exact absurd unversioned (exists_entryOf_iff.1 read)
    | error e =>
      have refused : ofRows rows = .error e := by
        rw [ofRows, told]
        rfl
      obtain ⟨-, first, -, -, -, -, rfl⟩ := ofRows_eq_error.1 refused
      exact ⟨_, refused⟩

end History

/-! ## Sessions -/

namespace Session

variable {σ : Type} {surroundings : Surroundings σ} {state : σ}

theorem run_settings :
    (settings : Session σ Settings).run surroundings state =
      (.ok surroundings.settings, state, []) := rfl

theorem run_ofExcept {α : Type} (value : Except SchemaError α) :
    (ofExcept value).run surroundings state = (value, state, []) := by
  cases value <;> rfl

/-- Without an order no question is asked. -/
theorem run_history_of_unordered (unordered : surroundings.settings.order = none) :
    history.run surroundings state = (.error (.config .missingOrder), state, []) := by
  simp only [history, run_bind, run_settings, Settings.requireOrder, unordered, Except.mapError,
    run_ofExcept]
  rfl

/-- What comes of the answer to the query for the history. -/
def historyOf (sql : String) (simulating : Bool) :
    Answer (List Row) → Except SchemaError (List AppliedMigration)
  | .ok rows => History.ofRows rows
  | .error failure => if simulating then .ok [] else .error (failureOf sql failure)

/-- Once the order is settled, one query is made, and nothing after it. -/
theorem run_history_of_ordered {order : HistoryOrder} {sql : String}
    (ordered : surroundings.settings.order = some order)
    (asks : History.query surroundings.settings.historyTable order = sql) :
    let answered := surroundings.connection.fetchAll sql state
    history.run surroundings state =
      (historyOf sql (surroundings.connection.isSimulating answered.2) answered.1, answered.2,
        [.noted (.statement sql 0), .called (.query sql)]) := by
  intro answered
  simp only [history, run_bind, run_settings, Settings.requireOrder, ordered, Except.mapError,
    run_ofExcept, run_answerTo, asks]
  cases answered.1 with
  | ok rows =>
    dsimp only
    rw [run_ofExcept]
    rfl
  | error failure =>
    dsimp only [historyOf]
    rw [run_bind, run_isSimulating]
    dsimp only
    cases surroundings.connection.isSimulating answered.2 <;> rfl

end Session

namespace Operation

/-- The history cannot be read, and nothing is sent, where no order is set. Otherwise one query is
all that is sent; if it fails, the history is empty where the connection simulates and the query has
failed where it does not, and if it is answered, the rows are refused exactly where one of them
tells of no version, and otherwise make up the history. -/
theorem history_tells_what_was_applied {σ : Type} (surroundings : Surroundings σ) (state : σ) :
    let report := (Operation.history.perform : Session σ Outcome).run surroundings state
    (surroundings.settings.order = none →
        report.result = .error (.config .missingOrder) ∧ report.calls = []) ∧
      ∀ order, surroundings.settings.order = some order →
        let sql := History.query surroundings.settings.historyTable order
        let answered := surroundings.connection.fetchAll sql state
        report.calls = [.query sql] ∧
          (∀ failure, answered.1 = .error failure → report.result =
            if surroundings.connection.isSimulating answered.2 then .ok (.history [])
            else .error (.execution (failure.ofStatement sql))) ∧
          ∀ rows, answered.1 = .ok rows →
            ((∃ fault, report.result = .error (.metadata fault)) ↔
                ∃ row ∈ rows, History.versionIn? row = none) ∧
              (History.Versioned rows → ∃ history, report.result = .ok (.history history) ∧
                History.Recorded rows history) := by
  intro report
  -- The operation is the reading of the history with its outcome wrapped.
  have mapped := Session.run_map Outcome.history Session.history surroundings state
  refine ⟨?_, ?_⟩
  · intro unordered
    rw [Session.run_history_of_unordered unordered] at mapped
    exact ⟨congrArg Report.result mapped, congrArg Report.calls mapped⟩
  · intro order ordered sql answered
    rw [Session.run_history_of_ordered ordered rfl] at mapped
    have result : report.result = (Session.historyOf sql
        (surroundings.connection.isSimulating answered.2) answered.1).map .history :=
      congrArg Report.result mapped
    refine ⟨congrArg Report.calls mapped, ?_, ?_⟩
    · intro failure failed
      rw [result, failed, Session.historyOf]
      split <;> rfl
    · intro rows read
      rw [result, read, Session.historyOf]
      constructor
      · simp only [Traversal.map_eq_error_iff, History.exists_ofRows_eq_error_iff]
      · intro versioned
        obtain ⟨history, told, recorded⟩ := History.exists_ofRows versioned
        refine ⟨history, ?_, recorded⟩
        rw [told]
        rfl

/-- While the connection simulates, a version is told of as a number and, further down, as a text
between blanks, and for another table the query fails. Without an order neither is asked for. -/
theorem history_tells_what_was_applied_at_repeated_version :
    let rows : List Row :=
      [.ofFields [("version", .ofInt 2), ("migration_name", .string "Orders")],
       .ofFields [("version", .string "1"), ("breakpoint", .string "0")],
       .ofFields [("version", .string " 2\n"), ("migration_name", .string "Totals"),
         ("breakpoint", .bool true)]]
    let answering : Connection Unit := .steady true fun _ => rows
    let failing : Connection Unit :=
      { answering with fetchAll := fun _ state => (.error (.ofReason "no such table"), state) }
    let ask (connection : Connection Unit) (settings : Settings) : Report Unit Outcome :=
      Operation.history.perform.run ⟨connection, settings⟩ ()
    let settings := Settings.standard.withOrder .creation
    (ask answering .standard).result = .error (.config .missingOrder) ∧
      (ask failing settings).result = .ok (.history []) ∧
      (ask answering settings).calls =
        [.query "select * from \"phinxlog\" order by \"version\" asc"] ∧
      History.Versioned rows ∧
      ∃ history, (ask answering settings).result = .ok (.history history) ∧
        history.map (·.version) = [2, 1] ∧ History.Recorded rows history := by
  intro rows answering failing ask settings
  have versioned : History.Versioned rows := by decide +kernel
  obtain ⟨unordered, -⟩ := history_tells_what_was_applied ⟨answering, .standard⟩ ()
  obtain ⟨-, asked⟩ := history_tells_what_was_applied ⟨failing, settings⟩ ()
  obtain ⟨-, read⟩ := history_tells_what_was_applied ⟨answering, settings⟩ ()
  obtain ⟨calls, -, told⟩ := read .creation rfl
  obtain ⟨history, result, recorded⟩ := (told rows rfl).2 versioned
  have sent : History.query settings.historyTable .creation =
      "select * from \"phinxlog\" order by \"version\" asc" := by decide +kernel
  rw [sent] at calls
  refine ⟨(unordered rfl).1, (asked .creation rfl).2.1 (.ofReason "no such table") rfl, calls,
    versioned, history, result, ?_, recorded⟩
  rw [recorded.versions]
  decide +kernel

end Operation

end WarehouseSchema
