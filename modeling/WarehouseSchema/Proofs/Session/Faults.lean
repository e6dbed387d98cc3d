import WarehouseSchema.Operation
import WarehouseSchema.Proofs.Traversal

/-!
# What a computation without a connection can fail with

An operation decodes, checks and plans between its calls on the connection. What such a computation
can fail with is told here once for each of them, as the kinds of error that it can end in; every
other kind, a failure of the connection above all, it cannot.
-/

set_option autoImplicit false

namespace WarehouseSchema

/-- Every error that a computation can end in is of a kind. -/
def FailsOnly {α : Type} (kind : SchemaError → Prop) (value : Except SchemaError α) : Prop :=
  ∀ e, value = .error e → kind e

namespace FailsOnly

variable {α β : Type} {kind : SchemaError → Prop}

/-! ## Computations made of others -/

/-- A computation that succeeded ended in no error. -/
theorem ok (a : α) : FailsOnly kind (.ok a) := by
  intro _ failed
  cases failed

/-- A computation that failed ended in its one error. -/
theorem error {e : SchemaError} (fits : kind e) :
    FailsOnly kind (.error e : Except SchemaError α) := by
  intro _ failed
  cases failed
  exact fits

/-- A computation fails as its first part or as the rest does. -/
theorem bind {first : Except SchemaError α} {next : α → Except SchemaError β}
    (left : FailsOnly kind first) (right : ∀ a, FailsOnly kind (next a)) :
    FailsOnly kind (first.bind next) := by
  intro e failed
  cases first with
  | error cause => cases failed; exact left e rfl
  | ok a => exact right a e failed

/-- What is made of the value changes no error. -/
theorem map {value : Except SchemaError α} (fails : FailsOnly kind value) (f : α → β) :
    FailsOnly kind (value.map f) := by
  intro e failed
  cases value with
  | error cause => cases failed; exact fails e rfl
  | ok a => cases failed

/-- A step between two computations adds no error, as it cannot fail. -/
theorem map_bind {γ : Type} {value : Except SchemaError α} (fails : FailsOnly kind value)
    {f : α → β} {next : β → Except SchemaError γ} (rest : ∀ a, FailsOnly kind (next (f a))) :
    FailsOnly kind ((value.map f).bind next) := by
  intro e failed
  cases value with
  | error cause => cases failed; exact fails e rfl
  | ok a => exact rest a e failed

/-- A list is computed item by item, so it fails as one of its items does. -/
theorem mapM {read : α → Except SchemaError β} (each : ∀ a, FailsOnly kind (read a))
    (items : List α) : FailsOnly kind (items.mapM read) := by
  intro e failed
  obtain ⟨item, _, cause⟩ := Traversal.error_of_mapM failed
  exact each item e cause

/-! ## Computations of operations -/

/-- The type of a column fails as unknown alone. -/
theorem unknownType (unknown : ∀ name, kind (.unknownType name)) (type : Except UnknownType α) :
    FailsOnly kind (type.mapError SchemaError.unknownType) := by
  cases type with
  | error name => exact error (unknown name)
  | ok a => exact ok a

/-- A column is typed unless its type is unknown. -/
theorem typed (unknown : ∀ name, kind (.unknownType name)) (column : Column) :
    FailsOnly kind column.typed :=
  (unknownType unknown column.type).map _

/-- A column is defined unless its type is unknown. -/
theorem definition (unknown : ∀ name, kind (.unknownType name)) (column : Column) :
    FailsOnly kind column.definition :=
  (unknownType unknown column.type).map _

/-- Reported columns cannot be read, or have types that are unknown. -/
theorem columnsOf (unreadable : ∀ fault, kind (.metadata fault))
    (unknown : ∀ name, kind (.unknownType name)) (rows : List Row) :
    FailsOnly kind (Metadata.columnsOf rows) := by
  refine mapM (fun row => bind ?_ fun reported => ?_) rows
  · unfold Metadata.ReportedColumn.ofRow
    split
    · exact .error (unreadable _)
    · split
      · exact .error (unreadable _)
      · exact .ok _
  · refine bind ?_ fun descriptor => bind (unknownType unknown _) fun _ => .ok _
    unfold Metadata.Descriptor.parse
    split
    · exact .ok _
    · exact .error (unreadable _)

/-- Rows of keys fail by what they lack. -/
theorem keysOf (unreadable : ∀ fault, kind (.metadata fault)) (nameField columnField : String)
    (rows : List Row) : FailsOnly kind (Metadata.keysOf nameField columnField rows) := by
  refine (mapM (fun row => ?_) rows).map _
  unfold Metadata.keyColumnOf
  split
  · exact .error (unreadable _)
  · exact .ok _

/-- A history fails by a row that it cannot read. -/
theorem ofRows (unreadable : ∀ fault, kind (.metadata fault)) (rows : List Row) :
    FailsOnly kind (History.ofRows rows) := by
  refine (mapM (fun row => ?_) rows).map _
  unfold History.entryOf
  split
  · exact .error (unreadable _)
  · exact .ok _

/-- A plan for a column fails over a missing column or over one of the two types. -/
theorem changeColumn (missing : ∀ table column, kind (.columnNotFound table column))
    (unknown : ∀ name, kind (.unknownType name)) (table : String) (live : List Column)
    (name : String) (desired : Column) :
    FailsOnly kind (AlterPlan.changeColumn table live name desired) := by
  unfold AlterPlan.changeColumn
  split
  · exact .error (missing _ _)
  · exact (typed unknown _).bind fun _ => (typed unknown _).bind fun _ => .ok _

/-- An index is refused for its kind alone. -/
theorem addIndex (unsupported : ∀ name, kind (.unsupportedIndex name)) (index : Index) :
    FailsOnly kind (AlterPlan.addIndex index) := by
  unfold AlterPlan.addIndex
  split
  · exact .ok _
  · exact .error (unsupported _)

/-- A choice of key columns fails as an argument. -/
theorem keyChoice (refused : ∀ fault, kind (.invalidArgument fault)) (value : Json) :
    FailsOnly kind (KeyChoice.ofJson value) := by
  unfold KeyChoice.ofJson
  split
  · exact .ok _
  · exact .ok _
  · refine (mapM (fun item => ?_) _).map _
    unfold KeyChoice.columnOf
    split
    · exact .ok _
    · exact .error (refused _)
  · exact .error (refused _)

/-- A primary key fails as an argument, where its sources disagree. -/
theorem primaryKeyClause (refused : ∀ fault, kind (.invalidArgument fault)) (table : Table) :
    FailsOnly kind table.primaryKeyClause := by
  unfold Table.primaryKeyClause
  split
  · split
    · exact .error (refused _)
    · exact .ok _
  · split
    · exact .ok _
    · exact .ok _

/-- The creation of a table fails over the kind of an index, the type of a column or its key. -/
theorem creation (unsupported : ∀ name, kind (.unsupportedIndex name))
    (unknown : ∀ name, kind (.unknownType name)) (refused : ∀ fault, kind (.invalidArgument fault))
    (table : Table) : FailsOnly kind table.creation := by
  unfold Table.creation
  split
  · exact .error (unsupported _)
  · refine (mapM (fun column => ?_) _).bind fun columns =>
      (primaryKeyClause refused table).bind fun key => .ok _
    exact (definition unknown column).map _

end FailsOnly

end WarehouseSchema
