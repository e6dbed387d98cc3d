import WarehouseSchema.Proofs.Metadata.Keys
import WarehouseSchema.Proofs.Session.Acceptance
import WarehouseSchema.Proofs.Session.Alteration

/-!
# Moving the primary key to columns that a value names

The columns of a new primary key may be given by a loosely typed value: null, a text, or a list of
texts. `KeyChoice.Names` says which columns a value names, `KeyChoice.Refuses` what is wrong with
one that names none, and no value is of both kinds.

## What is proved

`key_moves_as_its_value_asks`: a value that names no columns is refused before anything is asked.
Otherwise the warehouse is asked for the present key, and a row of its answer without a column is
the end; else the present key is dropped where there is one, and the columns become the new one
where there are any, by a statement each.
-/

set_option autoImplicit false

namespace WarehouseSchema

namespace KeyChoice

/-! ## Values that choose columns -/

/-- The columns that a value names. -/
inductive Names : Json → List String → Prop where
  | nothing : Names .null []
  | single (column : String) : Names (.string column) [column]
  | many (columns : List String) : Names (.array (columns.map .string)) columns

/-- What is wrong with a value that names no columns: the first item of a list that is no text, or
the value as a whole. -/
inductive Refuses : Json → ArgumentFault → Prop where
  | item (columns : List String) {item : Json} (rest : List Json)
      (noText : ∀ text, item ≠ .string text) :
      Refuses (.array (columns.map .string ++ item :: rest)) (.keyItem item)
  | shape {value : Json} (notNull : value ≠ .null) (noText : ∀ text, value ≠ .string text)
      (noList : ∀ items, value ≠ .array items) : Refuses value (.keyShape value)

variable {value : Json} {columns : List String} {fault : ArgumentFault}

/-- The items of a list are texts, or one of them is the first that is no text. -/
theorem texts_or_first_other (items : List Json) :
    (∃ columns : List String, items = columns.map .string) ∨
      ∃ (columns : List String) (item : Json) (rest : List Json),
        items = columns.map .string ++ item :: rest ∧ ∀ text, item ≠ .string text := by
  induction items with
  | nil => exact .inl ⟨[], rfl⟩
  | cons first rest ih =>
    by_cases text : ∃ column, first = .string column
    · obtain ⟨column, rfl⟩ := text
      rcases ih with ⟨columns, rfl⟩ | ⟨columns, item, more, rfl, other⟩
      · exact .inl ⟨column :: columns, rfl⟩
      · exact .inr ⟨column :: columns, item, more, rfl, other⟩
    · exact .inr ⟨[], first, rest, rfl, fun column same => text ⟨column, same⟩⟩

/-- A value names columns, or something is wrong with it. -/
theorem names_or_refuses (value : Json) :
    (∃ columns, Names value columns) ∨ ∃ fault, Refuses value fault := by
  cases value with
  | null => exact .inl ⟨[], .nothing⟩
  | string column => exact .inl ⟨[column], .single column⟩
  | array items =>
    rcases texts_or_first_other items with ⟨columns, rfl⟩ | ⟨columns, item, rest, rfl, other⟩
    · exact .inl ⟨columns, .many columns⟩
    · exact .inr ⟨_, .item columns rest other⟩
  | _ => exact .inr ⟨_, .shape (by simp) (by simp) (by simp)⟩

/-- A value that names columns is a choice of these. -/
theorem ofJson_of_names (names : Names value columns) :
    ∃ choice, ofJson value = .ok choice ∧ choice.columns = columns := by
  cases names with
  | nothing => exact ⟨.none, rfl, rfl⟩
  | single column => exact ⟨.single column, rfl, rfl⟩
  | many =>
    have read : (columns.map .string).mapM columnOf = .ok columns :=
      Traversal.mapM_eq_ok.2 (List.forall₂_map_left_iff.2 (List.forall₂_same.2 fun _ _ => rfl))
    refine ⟨.many columns, ?_, rfl⟩
    rw [ofJson, read]
    rfl

/-- An item that is no text names no column. -/
theorem columnOf_of_other {item : Json} (noText : ∀ text, item ≠ .string text) :
    columnOf item = .error (.invalidArgument (.keyItem item)) := by
  cases item with
  | string text => exact absurd rfl (noText text)
  | _ => rfl

/-- A value with a fault is refused for it. -/
theorem ofJson_of_refuses (refuses : Refuses value fault) :
    ofJson value = .error (.invalidArgument fault) := by
  cases refuses with
  | @item columns item rest noText =>
    -- The texts before the item are read, so the reading ends at the item.
    have read : ∀ text ∈ columns.map Json.string, ∃ column, columnOf text = .ok column := by
      intro text among
      obtain ⟨column, -, rfl⟩ := List.mem_map.1 among
      exact ⟨column, rfl⟩
    have failed : (columns.map Json.string ++ item :: rest).mapM columnOf =
        .error (.invalidArgument (.keyItem item)) :=
      Traversal.mapM_eq_error.2 ⟨_, item, rest, rfl, read, columnOf_of_other noText⟩
    rw [ofJson, failed]
    rfl
  | shape notNull noText noList =>
    cases value with
    | null => exact absurd rfl notNull
    | string text => exact absurd rfl (noText text)
    | array items => exact absurd rfl (noList items)
    | _ => rfl

/-- The first item of a list that is no text is told. -/
theorem message_keyItem (item : Json) :
    (SchemaError.invalidArgument (.keyItem item)).message =
      "invalid argument: primary key columns must be strings, got " ++ item.compact := by
  show "invalid argument: " ++ ("primary key columns must be strings, got " ++ item.compact) = _
  rw [← String.append_assoc]
  rfl

end KeyChoice

namespace Alteration

open Metadata

variable {table : String} {choice : KeyChoice} {rows : List Row}

/-- The statements that move the key of a table to given columns. -/
def keyStatements (table : String) (rows : List Row) (columns : List String) : List String :=
  (if rows.isEmpty then []
    else ["alter table " ++ Quoted.identifier table ++ " drop primary key"]) ++
  if columns.isEmpty then []
    else ["alter table " ++ Quoted.identifier table ++ " add primary key (" ++
      Quoted.identifiers columns ++ ")"]

/-- The statement that drops the primary key. -/
theorem changeStatement_dropPrimaryKey (table : String) :
    AlterPlan.changeStatement table .dropPrimaryKey =
      "alter table " ++ Quoted.identifier table ++ " drop primary key" := by
  show "alter table " ++ Quoted.identifier table ++ " " ++ "drop primary key" = _
  have opening : " drop primary key" = " " ++ "drop primary key" := by decide
  rw [opening, String.append_assoc]

/-- The statement that adds a primary key without a name of its own. -/
theorem changeStatement_addPrimaryKey (table : String) (columns : List String) :
    AlterPlan.changeStatement table (.addKey (.unnamed .primary columns)) =
      "alter table " ++ Quoted.identifier table ++ " add primary key (" ++
        Quoted.identifiers columns ++ ")" := by
  show "alter table " ++ Quoted.identifier table ++ " " ++
    ("add " ++ ("" ++ "primary key" ++ " (" ++ Quoted.identifiers columns ++ ")")) = _
  have opening : " add primary key (" = " " ++ ("add " ++ ("" ++ "primary key" ++ " (")) := by
    decide
  rw [opening]
  simp only [String.append_assoc]

/-- The present key is dropped where the rows tell of one, and the new one is added where it has
columns. -/
theorem statements_changePrimaryKey (table : String) (rows : List Row) (choice : KeyChoice) :
    (AlterPlan.changePrimaryKey (!rows.isEmpty) choice).statements table =
      keyStatements table rows choice.columns := by
  rw [AlterPlan.changePrimaryKey, keyStatements, AlterPlan.statements, AlterPlan.ofChanges,
    KeyChoice.isEmpty]
  cases rows.isEmpty <;> cases choice.columns.isEmpty <;>
    simp [changeStatement_dropPrimaryKey, changeStatement_addPrimaryKey]

/-- The fields of an answer about primary keys. -/
def keyFields : KeyFields := ⟨"constraint_name", "column_name"⟩

/-- The statements for a new key depend on the rows only through whether there is a key. -/
theorem plan_replacingKey (table : String) (choice : KeyChoice) (rows : List Row) :
    (replacingKey table choice).plan rows =
      (keysOf keyFields.constraint keyFields.column rows).map fun keys =>
        (AlterPlan.changePrimaryKey (matchesKey keys [] none) choice).statements table := rfl

/-- Rows that all name a column are a key that is to be dropped, if there are any. -/
theorem plan_replacingKey_of_named (named : keyFields.Named rows) :
    (replacingKey table choice).plan rows = .ok (keyStatements table rows choice.columns) := by
  have told := KeyFields.keysOf_of_named named
  have present := KeyFields.isEmpty_of_keysOf named told
  rw [← statements_changePrimaryKey, ← present, plan_replacingKey, told]
  rfl

/-- No key is replaced over rows that cannot be read. -/
theorem plan_replacingKey_of_unnamed {row : Row} (mem : row ∈ rows)
    (unnamed : row.text? "column_name" = none) :
    (replacingKey table choice).plan rows =
      .error (.metadata (.keyColumnMissing "column_name")) := by
  rw [plan_replacingKey, KeyFields.keysOf_of_unnamed mem unnamed]
  rfl

end Alteration

namespace Session

variable {σ : Type}

/-- The question about the present key is asked first, and the rest goes on with its answer. -/
theorem run_changePrimaryKey_of_answered {surroundings : Surroundings σ} {state next : σ}
    {table : String} {rows : List Row}
    (answered : surroundings.connection.fetchAll (Metadata.showPrimaryKeys table) state =
      (.ok rows, next)) (choice : KeyChoice) :
    (changePrimaryKey table choice).run surroundings state =
      (((Alteration.replacingKey table choice).send rows).run surroundings next).after
        [.noted (.statement (Metadata.showPrimaryKeys table) 0),
          .called (.query (Metadata.showPrimaryKeys table))] := by
  rw [← carryOut_replacingKey]
  show (fetchAll (Metadata.showPrimaryKeys table) >>=
    (Alteration.replacingKey table choice).send).run surroundings state = _
  rw [run_bind, run_fetchAll, answered]
  rfl

/-- What was planned is sent. -/
theorem run_send_of_planned {alteration : Alteration} {rows : List Row} {statements : List String}
    (planned : alteration.plan rows = .ok statements) (surroundings : Surroundings σ) (state : σ) :
    (alteration.send rows).run surroundings state =
      (executeAll statements).run surroundings state := by
  rw [Alteration.send, planned]
  rfl

/-- Where nothing could be planned, nothing is sent. -/
theorem run_send_of_unplanned {alteration : Alteration} {rows : List Row} {e : SchemaError}
    (unplanned : alteration.plan rows = .error e) (surroundings : Surroundings σ) (state : σ) :
    ((alteration.send rows).run surroundings state) = (.error e, state, []) := by
  rw [Alteration.send, unplanned]
  rfl

end Session

namespace Operation

open Alteration Session

variable {σ : Type} {surroundings : Surroundings σ} {state next : σ} {table : String}
  {rows : List Row} {value : Json} {columns : List String} {fault : ArgumentFault}

/-- A value with a fault is refused before the first call. -/
theorem run_changePrimaryKeyTo_of_refuses (refuses : KeyChoice.Refuses value fault) :
    (changePrimaryKeyTo table value).perform.run surroundings state =
      (.error (.invalidArgument fault), state, []) := by
  rw [perform, KeyChoice.ofJson_of_refuses refuses]
  rfl

/-- A value that names columns is the choice of these columns, and they are moved to with the answer
about the present key. -/
theorem run_changePrimaryKeyTo_of_names (names : KeyChoice.Names value columns)
    (answered : surroundings.connection.fetchAll (Metadata.showPrimaryKeys table) state =
      (.ok rows, next)) :
    let report := (changePrimaryKeyTo table value).perform.run surroundings state
    ∃ choice : KeyChoice, choice.columns = columns ∧
      let sending := ((replacingKey table choice).send rows).run surroundings next
      report.result = sending.result.map (fun _ => .done) ∧
        report.calls = .query (Metadata.showPrimaryKeys table) :: sending.calls := by
  intro report
  obtain ⟨choice, read, chosen⟩ := KeyChoice.ofJson_of_names names
  have performed : ((changePrimaryKeyTo table value).perform : Session σ Outcome) =
      (fun _ => Outcome.done) <$> Session.changePrimaryKey table choice := by
    rw [perform, read]
    rfl
  have ran : report = _ := congrArg (·.run surroundings state) performed
  rw [ran, run_map, run_changePrimaryKey_of_answered answered]
  exact ⟨choice, chosen, rfl, rfl⟩

/-- A value that names columns is carried out after one query, if the rows name their columns. -/
theorem run_changePrimaryKeyTo_of_named (names : KeyChoice.Names value columns)
    (live : surroundings.connection.StaysLive state)
    (obliging : surroundings.connection.AcceptsStatements)
    (answered : surroundings.connection.fetchAll (Metadata.showPrimaryKeys table) state =
      (.ok rows, next)) (named : keyFields.Named rows) :
    let report := (changePrimaryKeyTo table value).perform.run surroundings state
    report.result = .ok .done ∧
      report.calls = .query (Metadata.showPrimaryKeys table) ::
        (keyStatements table rows columns).map .execute := by
  obtain ⟨choice, rfl, result, calls⟩ := run_changePrimaryKeyTo_of_names names answered
  have later := live.reply (.query (Metadata.showPrimaryKeys table))
  rw [Connection.reply_query_of_ok answered] at later
  obtain ⟨succeeded, sent⟩ := run_executeAll_of_obliging
    (keyStatements table rows choice.columns) later obliging
  rw [run_send_of_planned (plan_replacingKey_of_named named)] at result calls
  rw [succeeded] at result
  rw [sent] at calls
  exact ⟨result, calls⟩

/-- A value that names columns comes to nothing after one query, if a row names none. -/
theorem run_changePrimaryKeyTo_of_unnamed (names : KeyChoice.Names value columns)
    (answered : surroundings.connection.fetchAll (Metadata.showPrimaryKeys table) state =
      (.ok rows, next)) {row : Row} (mem : row ∈ rows) (unnamed : row.text? "column_name" = none) :
    let report := (changePrimaryKeyTo table value).perform.run surroundings state
    report.result = .error (.metadata (.keyColumnMissing "column_name")) ∧
      report.calls = [.query (Metadata.showPrimaryKeys table)] := by
  obtain ⟨choice, -, result, calls⟩ := run_changePrimaryKeyTo_of_names names answered
  rw [run_send_of_unplanned (plan_replacingKey_of_unnamed mem unnamed)] at result calls
  exact ⟨result, calls⟩

/-- What is done with the primary key is told by the value and by the rows of the answer about the
present key. -/
theorem key_moves_as_its_value_asks (live : surroundings.connection.StaysLive state)
    (obliging : surroundings.connection.AcceptsStatements)
    (answered : surroundings.connection.fetchAll (Metadata.showPrimaryKeys table) state =
      (.ok rows, next)) (value : Json) :
    let report := (changePrimaryKeyTo table value).perform.run surroundings state
    ((∃ fault, report.result = .error (.invalidArgument fault)) ↔
        ¬ ∃ columns, KeyChoice.Names value columns) ∧
      (∀ fault, KeyChoice.Refuses value fault →
        report.result = .error (.invalidArgument fault) ∧ report.calls = []) ∧
      (∀ (columns : List String) (item : Json) (rest : List Json),
        value = .array (columns.map .string ++ item :: rest) → (∀ text, item ≠ .string text) →
          ∃ e, report.result = .error e ∧
            e.message = "invalid argument: primary key columns must be strings, got " ++
              item.compact) ∧
      ∀ columns, KeyChoice.Names value columns →
        ((∀ row ∈ rows, row.text? "column_name" ≠ none) →
            report.result = .ok .done ∧
              report.calls = .query (Metadata.showPrimaryKeys table) ::
                (keyStatements table rows columns).map .execute) ∧
          ((∃ row ∈ rows, row.text? "column_name" = none) →
            report.result = .error (.metadata (.keyColumnMissing "column_name")) ∧
              report.calls = [.query (Metadata.showPrimaryKeys table)]) := by
  intro report
  have refusal {fault : ArgumentFault} (refuses : KeyChoice.Refuses value fault) :
      report = (.error (.invalidArgument fault), state, []) :=
    run_changePrimaryKeyTo_of_refuses refuses
  refine ⟨⟨?_, ?_⟩, ?_, ?_, ?_⟩
  · rintro ⟨fault, refused⟩ ⟨columns, names⟩
    -- With columns to move to, either all is done or a row is at fault: neither is a refusal.
    by_cases named : keyFields.Named rows
    · have done := (run_changePrimaryKeyTo_of_named names live obliging answered named).1
      cases refused.symm.trans done
    · obtain ⟨row, mem, unnamed⟩ : ∃ row ∈ rows, row.text? "column_name" = none := by
        by_contra none
        exact named fun row mem unnamed => none ⟨row, mem, unnamed⟩
      have failed := (run_changePrimaryKeyTo_of_unnamed names answered mem unnamed).1
      cases refused.symm.trans failed
  · intro other
    obtain names | ⟨fault, refuses⟩ := KeyChoice.names_or_refuses value
    · exact absurd names other
    · exact ⟨fault, congrArg Report.result (refusal refuses)⟩
  · intro fault refuses
    exact ⟨congrArg Report.result (refusal refuses), congrArg Report.calls (refusal refuses)⟩
  · rintro columns item rest rfl noText
    have refused := refusal (.item columns rest noText)
    exact ⟨_, congrArg Report.result refused, KeyChoice.message_keyItem item⟩
  · intro columns names
    refine ⟨run_changePrimaryKeyTo_of_named names live obliging answered, ?_⟩
    rintro ⟨row, mem, unnamed⟩
    exact run_changePrimaryKeyTo_of_unnamed names answered mem unnamed

/-- A key of one column is replaced by one of two; a number among the columns is refused. -/
theorem key_moves_as_its_value_asks_at_two_columns :
    let present : Row :=
      .ofFields [("constraint_name", .string "by_id"), ("column_name", .string "id")]
    let answering : Surroundings Unit := ⟨.steady false fun _ => [present], .standard⟩
    let asked (value : Json) := (changePrimaryKeyTo "orders" value).perform.run answering ()
    (asked (.array [.string "shop", .string "code"])).calls =
        [.query (Metadata.showPrimaryKeys "orders"),
          .execute "alter table \"orders\" drop primary key",
          .execute "alter table \"orders\" add primary key (\"shop\", \"code\")"] ∧
      (asked (.array [.string "shop", .bool true])).result =
        .error (.invalidArgument (.keyItem (.bool true))) ∧
      (asked (.array [.string "shop", .bool true])).calls = [] := by
  intro present answering asked
  have obliging : answering.connection.AcceptsStatements := fun _ _ => ⟨1, rfl⟩
  have named : ∀ row ∈ [present], row.text? "column_name" ≠ none := by decide +kernel
  have moves := @key_moves_as_its_value_asks Unit answering () () "orders" [present]
    (fun _ _ => rfl) obliging rfl
  obtain ⟨-, -, -, moved⟩ := moves (.array [.string "shop", .string "code"])
  obtain ⟨-, refused, -, -⟩ := moves (.array [.string "shop", .bool true])
  have statements : keyStatements "orders" [present] ["shop", "code"] =
      ["alter table \"orders\" drop primary key",
        "alter table \"orders\" add primary key (\"shop\", \"code\")"] := by decide +kernel
  refine ⟨?_, refused _ (.item ["shop"] [] (by simp))⟩
  have sent := ((moved _ (.many ["shop", "code"])).1 named).2
  exact sent.trans (congrArg (List.cons _ <| List.map Call.execute ·) statements)

end Operation

end WarehouseSchema
