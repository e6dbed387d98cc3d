import WarehouseSchema.Proofs.Alter.Convergence
import WarehouseSchema.Proofs.Metadata.Columns
import WarehouseSchema.Proofs.Metadata.Descriptor

/-!
# Columns that were read are of use

A column is read from a row under the keyword of its type, and whatever is done with it later finds
the type from that keyword again. So every type that the warehouse may report, in any case and with
blanks around it, must have a keyword that means it.

## What is proved

`columnsOf_usable`: the rows of an answer are read as one column for each of them, in order, and
each of these columns can be defined. A plan for one of them is refused only where its name or the
desired type is. Where an answer cannot be read, its first row that cannot be read alone is to
blame.

`Tells` says what a row tells of a column, and `RowFault` what may be wrong with a row.
-/

set_option autoImplicit false

namespace WarehouseSchema

namespace Row

/-- A string is its text, and another value that is no null is its JSON text. -/
theorem text?_eq_some_iff {row : Row} {name text : String} :
    row.text? name = some text ↔
      row.get? name = some (.string text) ∨ ∃ value, row.get? name = some value ∧
        value ≠ .null ∧ (∀ string, value ≠ .string string) ∧ value.compact = text := by
  rw [text?]
  rcases row.get? name with _ | (_ | _ | _ | _ | _ | _) <;> simp

/-- A field has no text where it is missing or null. -/
theorem text?_eq_none_iff {row : Row} {name : String} :
    row.text? name = none ↔ row.get? name = none ∨ row.get? name = some .null := by
  rw [text?]
  rcases row.get? name with _ | (_ | _ | _ | _ | _ | _) <;> simp

end Row

namespace Metadata

/-- The first thing that is wrong with a row that tells of no column: each case says what is right
before it. -/
inductive RowFault (row : Row) : SchemaError → Prop where
  | name (missing : row.get? "column_name" = none ∨ row.get? "column_name" = some .null) :
      RowFault row (.metadata .columnNameMissing)
  | dataType {name : String} (named : row.text? "column_name" = some name)
      (missing : row.get? "data_type" = none ∨ row.get? "data_type" = some .null) :
      RowFault row (.metadata (.dataTypeMissing name))
  | descriptor {name dataType : String} (named : row.text? "column_name" = some name)
      (described : row.text? "data_type" = some dataType)
      (unreadable : ¬ ∃ descriptor, Descriptor.parse dataType = .ok descriptor) :
      RowFault row (.metadata (.unreadableType dataType))
  /-- The name of the type is told without the blanks around it. -/
  | type {name dataType : String} {descriptor : Descriptor}
      (named : row.text? "column_name" = some name)
      (described : row.text? "data_type" = some dataType)
      (parsed : Descriptor.parse dataType = .ok descriptor)
      (unknown : ¬ ∃ type, DataType.ofReported descriptor.type = .ok type) :
      RowFault row (.unknownType ⟨Text.trim descriptor.type⟩)

/-- What a row tells of the column that is read from it. -/
structure Tells (row : Row) (column : Column) : Prop where
  name : row.get? "column_name" = some (.string column.name) ∨
    ∃ value, row.get? "column_name" = some value ∧ value ≠ .null ∧
      (∀ string, value ≠ .string string) ∧ value.compact = column.name
  type : ∃ dataType descriptor type, row.text? "data_type" = some dataType ∧
    Descriptor.parse dataType = .ok descriptor ∧
      DataType.ofReported descriptor.type = .ok type ∧ column.type = .ok type
  definition : ∃ definition, column.definition = .ok definition

/-! ## One row -/

/-- A row with a fault is refused for it. -/
theorem columnOf_of_fault {row : Row} {failure : SchemaError} (fault : RowFault row failure) :
    columnOf row = .error failure := by
  cases fault with
  | name missing =>
    rw [columnOf, ReportedColumn.ofRow, Row.text?_eq_none_iff.2 missing]
    rfl
  | dataType named missing =>
    rw [columnOf, ReportedColumn.ofRow, named, Row.text?_eq_none_iff.2 missing]
    rfl
  | descriptor named described unreadable =>
    rw [columnOf_of_described named described, Descriptor.parse_eq_error_iff.2 ⟨unreadable, rfl⟩]
    rfl
  | type named described parsed unknown =>
    rw [columnOf_of_described named described, parsed, Except.bind,
      DataType.ofReported_eq_error_iff.2 ⟨unknown, rfl⟩]
    rfl

/-- A row with nothing wrong with it tells of a column. -/
theorem exists_fault {row : Row} (unread : ¬ ∃ column, columnOf row = .ok column) :
    ∃ failure, RowFault row failure := by
  cases named : row.text? "column_name" with
  | none => exact ⟨_, .name (Row.text?_eq_none_iff.1 named)⟩
  | some name =>
    cases described : row.text? "data_type" with
    | none => exact ⟨_, .dataType named (Row.text?_eq_none_iff.1 described)⟩
    | some dataType =>
      by_cases readable : ∃ descriptor, Descriptor.parse dataType = .ok descriptor
      · obtain ⟨descriptor, parsed⟩ := readable
        refine ⟨_, .type named described parsed ?_⟩
        rintro ⟨type, known⟩
        exact unread ⟨_, columnOf_eq_ok.2
          ⟨name, dataType, descriptor, type, named, described, parsed, known, rfl⟩⟩
      · exact ⟨_, .descriptor named described readable⟩

/-- A row is refused for the first thing that is wrong with it. -/
theorem columnOf_eq_error {row : Row} {failure : SchemaError} :
    columnOf row = .error failure ↔ RowFault row failure := by
  constructor
  · intro refused
    obtain ⟨other, fault⟩ := exists_fault fun ⟨column, read⟩ => nomatch read.symm.trans refused
    cases refused.symm.trans (columnOf_of_fault fault)
    exact fault
  · exact columnOf_of_fault

/-- A row that was read tells its column. -/
theorem tells_of_columnOf {row : Row} {column : Column} (read : columnOf row = .ok column) :
    Tells row column where
  name := Row.text?_eq_some_iff.1 (name_of_columnOf read)
  type := by
    obtain ⟨name, dataType, descriptor, type, -, described, parsed, known, rfl⟩ :=
      columnOf_eq_ok.1 read
    exact ⟨dataType, descriptor, type, described, parsed, known, type_columnFrom ..⟩
  definition := by
    obtain ⟨type, known⟩ := exists_type_of_columnOf read
    exact ⟨_, Column.definition_of_type known⟩

/-! ## All rows of an answer -/

variable {rows : List Row} {live : List Column}

/-- Rows are read one by one. -/
theorem columnsOf_eq_ok :
    columnsOf rows = .ok live ↔
      List.Forall₂ (fun row column => columnOf row = .ok column) rows live :=
  Traversal.mapM_eq_ok

/-- Columns that were read have known types. -/
theorem exists_type_of_columnsOf (read : columnsOf rows = .ok live) :
    ∀ column ∈ live, ∃ type, column.type = .ok type := by
  intro column mem
  obtain ⟨row, -, told⟩ := Traversal.exists_of_mem_right (columnsOf_eq_ok.1 read) mem
  exact exists_type_of_columnOf told

/-- A row that is the whole answer is read as it is anywhere. -/
theorem exists_columnsOf_singleton_iff {row : Row} :
    (∃ column, columnsOf [row] = .ok [column]) ↔ ∃ column, columnOf row = .ok column := by
  simp [columnsOf_singleton]

theorem columnsOf_singleton_eq_error {row : Row} {failure : SchemaError} :
    columnsOf [row] = .error failure ↔ columnOf row = .error failure := by
  rw [columnsOf, List.mapM_cons, List.mapM_nil]
  cases columnOf row <;> simp [bind, Except.bind, pure, Except.pure]

/-- Among columns of known types, a plan is refused for its name or for the desired type alone. -/
theorem changeColumn_eq_error_of_known {table name : String} {desired : Column}
    {failure : SchemaError} (known : ∀ column ∈ live, ∃ type, column.type = .ok type) :
    AlterPlan.changeColumn table live name desired = .error failure ↔
      (name ∉ live.map Column.name ∧ failure = .columnNotFound table name) ∨
        name ∈ live.map Column.name ∧ (¬ ∃ type, desired.type = .ok type) ∧
          failure = .unknownType ⟨desired.typeName⟩ := by
  rw [AlterPlan.changeColumn_eq_error]
  refine or_congr_right ⟨?_, ?_⟩
  · rintro ⟨current, found, ⟨unknown, -⟩ | ⟨-, refused⟩⟩
    · exact absurd (known current (List.mem_of_find?_eq_some found)) unknown
    · exact ⟨Column.mem_of_find? found, refused⟩
  · rintro ⟨present, refused⟩
    cases found : Column.find? live name with
    | none => exact absurd present (Column.find?_eq_none_iff.1 found)
    | some current =>
      exact ⟨current, rfl, .inr ⟨known current (List.mem_of_find?_eq_some found), refused⟩⟩

/-- The rows of an answer are read as the columns that they tell of, in order, and a plan for one of
these is refused only where its name or the desired type is. An answer is refused as the first of
its rows that is refused alone. -/
theorem columnsOf_usable (rows : List Row) :
    (∀ live, columnsOf rows = .ok live →
      List.Forall₂ Tells rows live ∧
        ∀ table name desired failure,
          AlterPlan.changeColumn table live name desired = .error failure ↔
            (name ∉ live.map Column.name ∧ failure = .columnNotFound table name) ∨
              name ∈ live.map Column.name ∧ (¬ ∃ type, desired.type = .ok type) ∧
                failure = .unknownType ⟨desired.typeName⟩) ∧
      ∀ failure, columnsOf rows = .error failure ↔
        ∃ before row after, rows = before ++ row :: after ∧
          (∀ other ∈ before, ∃ column, columnsOf [other] = .ok [column]) ∧
            columnsOf [row] = .error failure ∧ RowFault row failure := by
  refine ⟨fun live read => ⟨?_, ?_⟩, fun failure => ?_⟩
  · exact (columnsOf_eq_ok.1 read).imp fun _ _ => tells_of_columnOf
  · intro table name desired failure
    exact changeColumn_eq_error_of_known (exists_type_of_columnsOf read)
  · have cause (row : Row) : (columnsOf [row] = .error failure ∧ RowFault row failure) ↔
        columnOf row = .error failure := by
      rw [columnsOf_singleton_eq_error, columnOf_eq_error, and_self]
    simp only [exists_columnsOf_singleton_iff, cause]
    exact Traversal.mapM_eq_error

/-- A row of a name and a descriptor alone tells of nothing else. -/
theorem columnOf_ofFields (name : Json) (descriptor : Descriptor) {text : String} {type : DataType}
    (named : (Row.ofFields [("column_name", name)]).text? "column_name" = some text)
    (known : DataType.ofReported descriptor.type = .ok type) :
    columnOf (.ofFields [("column_name", name), ("data_type", .string (descriptor.text []))]) =
      .ok (columnFrom .empty text type descriptor) := by
  have parsed : Descriptor.parse (descriptor.text []) = .ok descriptor :=
    Descriptor.parse_text descriptor (fun _ mem => absurd mem List.not_mem_nil)
      fun _ mem => absurd mem List.not_mem_nil
  generalize descriptor.text [] = dataType at parsed
  exact columnOf_eq_ok.2 ⟨text, dataType, descriptor, type, named, rfl, parsed, known, rfl⟩

/-- A type is reported in another case and with blanks around it, and a name that is no string is
its JSON text. -/
theorem columnsOf_usable_at_padded_type :
    let row (name : Json) (descriptor : Descriptor) : Row :=
      .ofFields [("column_name", name), ("data_type", .string (descriptor.text []))]
    let rows := [row (.string "price") ⟨" Fixed ", some 9, some 2, none, none, none⟩,
      row (.bool true) ⟨"timestamp_TZ", none, some 3, none, none, none⟩]
    let live := [((Column.declare "price" "number").withPrecision 9).withScale 2,
      (Column.declare "true" "timestamp_tz").withPrecision 3]
    let desired := Column.declare "price" "money"
    columnsOf rows = .ok live ∧ List.Forall₂ Tells rows live ∧
      AlterPlan.changeColumn "orders" live "price" desired = .error (.unknownType ⟨"money"⟩) := by
  intro row rows live desired
  have price : columnOf _ = .ok (columnFrom .empty "price" .number _) :=
    columnOf_ofFields (.string "price") ⟨" Fixed ", some 9, some 2, none, none, none⟩ rfl rfl
  have stamp : columnOf _ = .ok (columnFrom .empty "true" .timestampTz _) :=
    columnOf_ofFields (.bool true) ⟨"timestamp_TZ", none, some 3, none, none, none⟩ rfl rfl
  have read : columnsOf rows = .ok live := columnsOf_eq_ok.2 (.cons price (.cons stamp .nil))
  have unknown : ¬ ∃ type, desired.type = .ok type :=
    (DataType.resolveZoned_eq_error_iff.1
      (DataType.resolveZoned_of_toOption (by decide) false)).1
  obtain ⟨tells, refused⟩ := (columnsOf_usable rows).1 live read
  exact ⟨read, tells, (refused "orders" "price" desired _).2 (.inr ⟨by decide, unknown, rfl⟩)⟩

end Metadata

end WarehouseSchema
