import WarehouseSchema.Proofs.DataType.Spelling
import WarehouseSchema.Proofs.Session.Refusal

/-!
# Columns that can be declared

A column can be checked before it is declared: the check looks its type name up among those that
are documented. Resolving the name, writing the definition and planning to add the column look it up
among the synonyms, and a reported name is looked up there after three names of storage.

## What is proved

`validation_agrees_with_rendering`: the check accepts the columns that can be written and no others,
a column that it does not accept is refused by the name of its type before anything is sent, and a
reported name means what it means as a declared one, apart from one name that cannot be declared.
-/

set_option autoImplicit false

namespace WarehouseSchema

namespace Column

variable {column : Column}

theorem exists_type_iff :
    (∃ type, column.type = .ok type) ↔ ∃ type, DataType.resolve column.typeName = .ok type :=
  DataType.exists_resolveZoned_iff

theorem exists_definition_iff :
    (∃ definition, column.definition = .ok definition) ↔ ∃ type, column.type = .ok type := by
  constructor
  · intro written
    obtain ⟨type, typed⟩ := Traversal.exists_map_eq_ok.1 written
    by_contra unknown
    cases typed.symm.trans (dataType_eq_error_iff.2 ⟨unknown, rfl⟩)
  · intro known
    obtain ⟨type, known⟩ := known
    exact ⟨_, definition_of_type known⟩

end Column

namespace Operation

variable {σ : Type} {column : Column}

/-- A column of unknown type is refused, and the connection is left alone. -/
theorem run_addColumn_of_unknown (unknown : ¬ ∃ type, column.type = .ok type) (table : String)
    (surroundings : Surroundings σ) (state : σ) :
    (Operation.addColumn table column).perform.run surroundings state =
      (.error (.unknownType ⟨column.typeName⟩), state, []) := by
  have refused : AlterPlan.addColumn column = .error (.unknownType ⟨column.typeName⟩) :=
    Traversal.map_eq_error_iff.2 <| Traversal.map_eq_error_iff.2 <|
      Column.dataType_eq_error_iff.2 ⟨unknown, rfl⟩
  rw [perform, Session.addColumn, refused]
  rfl

/-- A column of a known type is planned for, and then only the connection fails. -/
theorem isExecution_of_addColumn {type : DataType} (known : column.type = .ok type)
    {table : String} {surroundings : Surroundings σ} {state : σ} {e : SchemaError}
    (failed : ((Operation.addColumn table column).perform.run surroundings state).result =
      .error e) : e.isExecution = true := by
  rw [perform, Session.addColumn, AlterPlan.addColumn, Column.definition_of_type known,
    Session.run_map, Report.result_mk, Traversal.map_eq_error_iff] at failed
  exact Session.fails_alter table _ surroundings state e failed

end Operation

/-- The check of a column agrees with every other reading of its type name: as a synonym, with a
time zone or without one, as the type of a definition and as that of a column to add. A name that
the warehouse reports is read alike where it is a synonym, and otherwise it is one name. -/
theorem validation_agrees_with_rendering (column : Column) (reported : String) :
    let valid := DataType.isDocumentedName column.typeName = true
    (valid ↔ ∃ type, DataType.resolve column.typeName = .ok type) ∧
      (∀ zoned, valid ↔ ∃ type, DataType.resolveZoned column.typeName zoned = .ok type) ∧
      (valid ↔ ∃ text, column.definition.map (·.render) = .ok text) ∧
      (valid ↔ ∃ plan, AlterPlan.addColumn column = .ok plan) ∧
      (∀ (σ : Type) (surroundings : Surroundings σ) (state : σ) (table : String),
        ¬ valid ↔ ((Operation.addColumn table column).perform.run surroundings state).result =
          .error (.unknownType ⟨column.typeName⟩)) ∧
      (∀ type, DataType.resolve reported = .ok type → DataType.ofReported reported = .ok type) ∧
      ((¬ ∃ type, DataType.resolve reported = .ok type) →
        ((∃ type, DataType.ofReported reported = .ok type) ↔
          Text.sameLetters (Text.trim reported) "fixed" = true)) := by
  intro valid
  -- All readings of the column's own type name are compared with its type.
  have documented : valid ↔ ∃ type, column.type = .ok type := by
    rw [Column.exists_type_iff]
    exact DataType.isDocumentedName_iff
  have told := DataType.toOption_ofReported reported
  refine ⟨DataType.isDocumentedName_iff, fun zoned => ?_, ?_, ?_, ?_, ?_, ?_⟩
  · rw [DataType.exists_resolveZoned_iff]
    exact DataType.isDocumentedName_iff
  · rw [documented, Traversal.exists_map_eq_ok, Column.exists_definition_iff]
  · rw [documented, AlterPlan.addColumn, Traversal.exists_map_eq_ok, Column.exists_definition_iff]
  · intro σ surroundings state table
    rw [documented]
    constructor
    · intro unknown
      rw [Operation.run_addColumn_of_unknown unknown]
      rfl
    · intro refused known
      obtain ⟨type, known⟩ := known
      cases Operation.isExecution_of_addColumn known refused
  · intro type means
    have other : ¬ Text.sameLetters (Text.trim reported) "fixed" = true := by
      intro fixed
      have none := DataType.toOption_resolve_fixed fixed
      rw [means] at none
      cases none
    rw [if_neg other, means] at told
    exact DataType.eq_ok_of_toOption told
  · intro unknown
    rw [DataType.exists_eq_ok_iff, Bool.not_eq_true, Option.isSome_eq_false_iff,
      Option.isNone_iff_eq_none] at unknown
    rw [DataType.exists_eq_ok_iff, told, unknown]
    split <;> simp_all

/-- A column whose type name has blanks and capitals, and a name that only the warehouse uses. -/
theorem validation_agrees_with_rendering_at_storage_names :
    let code := Column.declare "code" "\tText "
    DataType.isDocumentedName code.typeName = true ∧
      DataType.resolveZoned code.typeName true = .ok .varchar ∧
      DataType.ofReported "\tText " = .ok .varchar ∧
      (¬ ∃ type, DataType.resolve " Fixed" = .ok type) ∧
      ∃ type, DataType.ofReported " Fixed" = .ok type := by
  intro code
  have means : DataType.resolve "\tText " = .ok .varchar :=
    DataType.eq_ok_of_toOption (by decide +kernel)
  have unknown : ¬ ∃ type, DataType.resolve " Fixed" = .ok type := by
    rw [DataType.exists_eq_ok_iff]
    decide +kernel
  obtain ⟨resolved, -, -, -, -, kept, -⟩ := validation_agrees_with_rendering code "\tText "
  obtain ⟨-, -, -, -, -, -, fixed⟩ := validation_agrees_with_rendering code " Fixed"
  refine ⟨resolved.2 ⟨.varchar, means⟩, ?_, kept .varchar means, unknown,
    (fixed unknown).2 (by decide +kernel)⟩
  exact DataType.eq_ok_of_toOption (by decide +kernel)

end WarehouseSchema
