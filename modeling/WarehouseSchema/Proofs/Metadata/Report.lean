import WarehouseSchema.Proofs.Alter.Convergence
import WarehouseSchema.Proofs.Metadata.Columns
import WarehouseSchema.Proofs.Metadata.Descriptor
import WarehouseSchema.Proofs.Metadata.Identity
import WarehouseSchema.Proofs.Text.Blank

/-!
# Columns are read as they were declared

A column is created, the warehouse reports it by a row, and the row is read.

## What is proved

`columnsOf_report`: the row is read as a column that is declared by the stored type, has all else
that was declared as far as the type takes it, is defined by the same text as the column of the
stored type, and needs no change to become the column that was declared. Properties are not
reported, and a default is left out here.

`Reports` is what a row of a faithful warehouse tells of a column. The type descriptor is any
compact text with the members of the column's type, so the warehouse may report more of a type than
is read.
-/

set_option autoImplicit false

namespace WarehouseSchema.Metadata

/-! ## What the warehouse reports -/

/-- The name by which the warehouse reports a type: that of its storage, or the keyword of the
stored type in capitals. -/
def reportedTag : DataType → String
  | .number => "FIXED"
  | .varchar => "TEXT"
  | .float => "REAL"
  | type => type.stored.keyword.toUpper

/-- The descriptor of a column of a type. A number has a scale where it has a precision, and
fractions of seconds are reported as a scale. -/
def reportedDescriptor (column : Column) (type : DataType) : Descriptor where
  type := reportedTag type
  precision := if type = .number then column.precision else none
  scale :=
    match type.family with
    | .numeric => column.precision.map fun _ => column.scale.getD 0
    | .time | .timestamp => column.precision
    | _ => none
  length := if type.takesLimit then column.limit else none
  nullable := some column.nullable
  collation := if type = .varchar then column.collation else none

/-- The description of a column that counts by itself, from a seed by an increment. -/
def countingText (seed increment : Int64) : String :=
  "IDENTITY START " ++ Text.integerText seed.toInt ++ " INCREMENT " ++
    Text.integerText increment.toInt ++ " ORDER"

/-- The description of the identity of a column; only a number has one. -/
def reportedIdentity (column : Column) (type : DataType) : String :=
  match type, column.identity with
  | .number, some ⟨some seed, some increment⟩ => countingText seed increment
  | _, _ => ""

/-- The row tells of a column of a type. -/
structure Reports (row : Row) (column : Column) (type : DataType) : Prop where
  name : row.get? "column_name" = some (.string column.name)
  dataType : ∃ further, (∀ member ∈ further, member.1 ∉ Descriptor.fieldNames) ∧
    (∀ member ∈ further, member.2.isWhole = true) ∧
    row.get? "data_type" = some (.string ((reportedDescriptor column type).text further))
  default : row.text? "default" = none ∨ row.text? "default" = some ""
  comment : row.get? "comment" = some (.string (column.comment.getD ""))
  autoincrement : row.get? "autoincrement" = some (.string (reportedIdentity column type))

/-- The row that tells no more of a column than it must. -/
def report (column : Column) (type : DataType) : Row :=
  .ofFields
    [("column_name", .string column.name),
     ("data_type", .string ((reportedDescriptor column type).text [])),
     ("comment", .string (column.comment.getD "")),
     ("autoincrement", .string (reportedIdentity column type))]

example :
    (reportedDescriptor ((Column.declare "at" "timestamp").withPrecision 3) .timestamp).text [] =
      "\x7b\"nullable\":true,\"scale\":3,\"type\":\"TIMESTAMP_NTZ\"\x7d" := by
  decide +kernel

/-- The column that is read from a report: what the stored type spells of the column, and all else
that is reported. -/
def readBack (column : Column) (type : DataType) : Column :=
  { column.retyped (column.spellingOf type.stored) with
    default := none
    identity := if type.supportsIdentity then column.identity else none
    properties := [] }

/-- Of the fields of one name the last one counts. -/
theorem get?_ofFields (fields : List (String × Json)) (name : String) :
    (Row.ofFields fields).get? name = Json.member? fields.reverse name :=
  Json.member?_orderMembers fields name

/-- The row that is reported for a column reports it. -/
theorem reports_report (column : Column) (type : DataType) :
    Reports (report column type) column type where
  name := get?_ofFields _ _
  dataType := by
    refine ⟨[], ?_, ?_, get?_ofFields _ _⟩
    · intro member mem
      exact absurd mem List.not_mem_nil
    · intro member mem
      exact absurd mem List.not_mem_nil
  default := .inl (by rw [Row.text?, report, get?_ofFields]; rfl)
  comment := get?_ofFields _ _
  autoincrement := get?_ofFields _ _

/-! ## Reading the report -/

/-- The tag that is reported for a type means the type under which it is kept. -/
theorem ofReported_reportedTag (type : DataType) :
    DataType.ofReported (reportedTag type) = .ok type.stored := by
  have every : ∀ type ∈ DataType.all,
      (DataType.ofReported (reportedTag type)).toOption = some type.stored := by
    decide +kernel
  exact DataType.eq_ok_of_toOption (every type (DataType.mem_all type))

/-- The two numbers of an identity are read from the text that reports it. -/
theorem identityOf_countingText (seed increment : Int64) :
    identityOf (countingText seed increment) = ⟨some seed, some increment⟩ := by
  have before : Wordy "IDENTITY START ".toList := wordy_of_all (by decide +kernel)
  have between : Wordy " INCREMENT ".toList := wordy_of_all (by decide +kernel)
  have after : Wordy " ORDER".toList := wordy_of_all (by decide +kernel)
  unfold countingText
  exact identityOf_two seed increment before between after (by decide) (by decide)

/-- The text that reports an identity is not blank. -/
theorem trim_countingText (seed increment : Int64) :
    Text.trim (countingText seed increment) ≠ "" := by
  have begins : 'I' ∈ "IDENTITY START ".toList := by decide
  have stays : 'I' ∈ (countingText seed increment).toList := by
    unfold countingText
    rw [toList_two]
    exact List.mem_append_left _ begins
  exact Text.trim_ne_empty stays (by decide)

/-- A field that holds text is read as it. -/
theorem text?_of_get? {row : Row} {name text : String}
    (found : row.get? name = some (.string text)) : row.text? name = some text := by
  rw [Row.text?, found]

/-- The descriptor that is reported for a column declares its type with all parameters. -/
theorem declaredAs_reportedDescriptor (column : Column) (type : DataType) :
    { declaredAs column.name type.stored (reportedDescriptor column type) with
      nullable := column.nullable
      default := none
      identity := if type.supportsIdentity then column.identity else none
      comment := column.comment } = readBack column type := by
  cases type <;> rfl

/-- The identity of a number comes back from its description, and no other type has one. -/
theorem map_identityOf_reportedIdentity {column : Column} (type : DataType)
    (counted : ∀ identity, column.identity = some identity →
      identity.seed.isSome ∧ identity.increment.isSome) :
    ((some (reportedIdentity column type)).filter fun text => Text.trim text != "").map identityOf =
      if type.supportsIdentity then column.identity else none := by
  have blank : (Text.trim "" != "") = false := by decide
  have none : ((some "").filter fun text => Text.trim text != "").map identityOf = none := by
    rw [Option.filter_some, blank]
    rfl
  cases type with
  | number =>
    unfold reportedIdentity
    rcases declared : column.identity with _ | ⟨seed, increment⟩
    · exact none
    · obtain ⟨hasSeed, hasIncrement⟩ := counted _ declared
      obtain ⟨seed, rfl⟩ := Option.isSome_iff_exists.1 hasSeed
      obtain ⟨increment, rfl⟩ := Option.isSome_iff_exists.1 hasIncrement
      dsimp only
      rw [Option.filter_some, if_pos (bne_iff_ne.2 (trim_countingText seed increment)),
        Option.map_some, identityOf_countingText]
      rfl
  | _ => exact none

/-- Empty text is no default. -/
theorem bind_defaultOf {text : Option String} (empty : text = none ∨ text = some "") :
    text.bind defaultOf = none := by
  rcases empty with rfl | rfl <;> rfl

/-- The row of a report is read as the column that comes back. -/
theorem columnOf_of_reports {row : Row} {column : Column} {type : DataType}
    (commented : column.comment ≠ some "")
    (counted : ∀ identity, column.identity = some identity →
      identity.seed.isSome ∧ identity.increment.isSome)
    (reports : Reports row column type) : columnOf row = .ok (readBack column type) := by
  obtain ⟨further, others, whole, dataType⟩ := reports.dataType
  refine columnOf_eq_ok.2 ⟨column.name, _, _, type.stored, text?_of_get? reports.name,
    text?_of_get? dataType, Descriptor.parse_text (reportedDescriptor column type) others whole,
    ofReported_reportedTag type, ?_⟩
  rw [columnFrom, text?_of_get? reports.comment, text?_of_get? reports.autoincrement,
    map_identityOf_reportedIdentity type counted, bind_defaultOf reports.default, Option.bind_some,
    commentOf_getD_eq_iff.2 commented]
  exact declaredAs_reportedDescriptor column type

/-! ## The column that comes back -/

/-- The column that is read back has the type under which the first one is kept. -/
theorem type_readBack (column : Column) (type : DataType) :
    (readBack column type).type = .ok type.stored := by
  have spelled : (column.spellingOf type.stored).type = type.stored :=
    ColumnDiff.type_spelling ⟨column, type.stored⟩
  show DataType.resolveZoned (column.spellingOf type.stored).type.keyword false = _
  rw [spelled, DataType.resolveZoned_keyword]

/-- What comes back spells the stored type as the declared column does: a scale that was filled in
stays. -/
theorem spellingOf_readBack (column : Column) (type : DataType) :
    (readBack column type).spellingOf type.stored = column.spellingOf type.stored := by
  cases type with
  | number =>
    show TypeSpelling.mk _ column.precision (column.precision.map fun _ =>
        (column.precision.map fun _ => column.scale.getD 0).getD 0) none none =
      TypeSpelling.mk _ column.precision (column.precision.map fun _ => column.scale.getD 0)
        none none
    cases column.precision <;> rfl
  | _ => rfl

/-- What comes back is defined by the text that defines the declared column of the stored type. -/
theorem definitionOf_readBack {column : Column} (type : DataType) (plain : column.default = none) :
    (readBack column type).definitionOf type.stored =
      { column.definitionOf type.stored with properties := [] } := by
  have default : (readBack column type).defaultText type.stored =
      column.defaultText type.stored := by
    rw [Column.defaultText, Column.defaultText, plain]
    rfl
  have identity : (if type.stored.supportsIdentity then
      (readBack column type).identity.map IdentityClause.ofIdentity else none) =
      if type.stored.supportsIdentity then column.identity.map .ofIdentity else none := by
    cases type <;> rfl
  rw [Column.definitionOf, Column.definitionOf, spellingOf_readBack, default, identity]
  rfl

/-- No section of a plan tells what comes back from what was declared. -/
theorem changes_readBack {column : Column} (type : DataType) (plain : column.default = none) :
    ColumnDiff.changes ⟨readBack column type, type.stored⟩ ⟨column, type⟩ = [] := by
  have reaches := ColumnDiff.reaches_spelling ⟨column, type⟩
  have default : (readBack column type).default =
      (TypedColumn.mk column type).defaultText.map .expression := by
    rw [TypedColumn.defaultText, Column.defaultText, plain]
    rfl
  have stored : type.stored.stored = type.stored := by cases type <;> rfl
  have storedApart : DataType.timestampNtz ≠ DataType.timestamp := by decide
  refine ColumnDiff.changes_eq_nil default rfl rfl stored ?_ ?_
  · cases type with
    | timestamp => exact ColumnDiff.textChange_eq_nil_of_type_ne storedApart
    | _ => exact reaches.text column
  · cases type with
    | timestamp => exact ColumnDiff.numberChange_eq_nil_of_type_ne storedApart
    | _ => exact reaches.number column

/-- A column is declared, reported and read. If it has no default, no empty comment and no identity
without a seed or an increment, the column that is read has the stored type and everything else that
was declared, is defined by the same text, and needs no change to become the declared column. -/
theorem columnsOf_report {row : Row} {column : Column} {type : DataType}
    (typed : column.type = .ok type) (plain : column.default = none)
    (commented : column.comment ≠ some "")
    (counted : ∀ identity, column.identity = some identity →
      identity.seed.isSome ∧ identity.increment.isSome)
    (reports : Reports row column type) :
    ∃ back, columnsOf [row] = .ok [back] ∧ back.name = column.name ∧
      back.type = .ok type.stored ∧ back.nullable = column.nullable ∧
      back.comment = column.comment ∧ back.default = none ∧
      back.identity = (if type.supportsIdentity then column.identity else none) ∧
      back.spellingOf type.stored = column.spellingOf type.stored ∧
      back.definition = .ok { column.definitionOf type.stored with properties := [] } ∧
      ∀ table, AlterPlan.changeColumn table [back] column.name column = .ok .empty := by
  have read : columnsOf [row] = .ok [readBack column type] := by
    rw [columnsOf, List.mapM_cons, columnOf_of_reports commented counted reports]
    rfl
  have definition : (readBack column type).definition =
      .ok { column.definitionOf type.stored with properties := [] } := by
    rw [Column.definition, Column.dataType, type_readBack, ← definitionOf_readBack type plain]
    rfl
  refine ⟨readBack column type, read, rfl, type_readBack column type, rfl, rfl, rfl, rfl,
    spellingOf_readBack column type, definition, fun table => ?_⟩
  refine AlterPlan.changeColumn_eq_ok.2
    ⟨readBack column type, type.stored, type, ?_, type_readBack column type, typed, ?_⟩
  · exact List.find?_cons_of_pos (beq_self_eq_true column.name)
  · rw [ColumnDiff.plan, changes_readBack type plain, if_pos rfl]
    rfl

/-- A key that counts down comes back with its seed and its step. -/
theorem columnsOf_report_at_counting_key :
    let column : Column := (((Column.declare "id" "number").withPrecision 12).notNull.withIdentity
      ⟨some 100, some (-5)⟩).withComment "the key"
    ∃ back, columnsOf [report column .number] = .ok [back] ∧
      back.type = .ok .number ∧ back.identity = some ⟨some 100, some (-5)⟩ ∧
      AlterPlan.changeColumn "orders" [back] "id" column = .ok .empty := by
  intro column
  have typed : column.type = .ok .number := DataType.resolveZoned_keyword .number
  have commented : column.comment ≠ some "" := by decide
  have counted : ∀ identity, column.identity = some identity →
      identity.seed.isSome ∧ identity.increment.isSome := by
    intro identity declared
    cases declared
    exact ⟨rfl, rfl⟩
  obtain ⟨back, read, -, type, -, -, -, identity, -, -, settled⟩ :=
    columnsOf_report typed rfl commented counted (reports_report column .number)
  exact ⟨back, read, type, identity, settled "orders"⟩

end WarehouseSchema.Metadata
