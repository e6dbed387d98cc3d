import WarehouseSchema.Proofs.Alter.Parameters

/-!
# A column against itself

A column that is desired just as it stands should need no change. Every section of a plan compares
the two columns in its own way; all but the last of them find nothing between a column and itself.
The last one completes a number that has a precision and no scale by a scale of zero, and compares
it with the live scale as it is, which is none.

## What is proved

`column_needs_no_change_from_itself_iff`: a column of a table needs no change to become itself,
unless it is a number with a precision and without a scale. `changeColumn_self` says what the plan
is then: the type is spelled once more, just as the definition of the column spells it.
-/

set_option autoImplicit false

namespace WarehouseSchema

/-- Whether a column is a number of which the precision is declared and the scale is not. -/
def TypedColumn.lacksScale (typed : TypedColumn) : Bool :=
  typed.type == .number && typed.column.precision.isSome && typed.column.scale.isNone

theorem TypedColumn.lacksScale_iff (typed : TypedColumn) :
    typed.lacksScale = true ↔
      typed.type = .number ∧ typed.column.precision.isSome = true ∧ typed.column.scale = none := by
  simp only [lacksScale, Bool.and_eq_true, beq_iff_eq, Option.isNone_iff_eq_none, and_assoc]

/-- Among columns of distinct names each is the one that its name finds. -/
theorem Column.find?_of_mem {live : List Column} {column : Column}
    (distinct : (live.map Column.name).Nodup) (mem : column ∈ live) :
    find? live column.name = some column := by
  induction live with
  | nil => cases mem
  | cons first rest ih =>
    rw [List.map_cons, List.nodup_cons] at distinct
    rcases List.mem_cons.1 mem with rfl | later
    · exact find?_cons_of_name_eq rfl rest
    · have other : first.name ≠ column.name := by
        intro same
        exact distinct.1 (same ▸ List.mem_map_of_mem later)
      rw [find?_cons_of_name_ne other]
      exact ih distinct.2 later

namespace ColumnDiff

/-- A text has the length and the collation that it has. -/
theorem textChange_self (typed : TypedColumn) : textChange typed typed = [] := by
  by_cases varchar : typed.type = .varchar
  · exact (textChange_eq_nil_iff varchar varchar).2 ⟨differs_self _, differs_self _⟩
  · exact if_neg fun alike => varchar alike.1

/-- A scale that is not declared counts as zero where it is desired and as none where it is live. -/
theorem numberChange_self (typed : TypedColumn) :
    numberChange typed typed = if typed.lacksScale then [.setType typed.spelling] else [] := by
  obtain ⟨column, type⟩ := typed
  by_cases number : type = .number
  · subst number
    cases declared : column.precision with
    | none => simp [numberChange, TypedColumn.lacksScale, declared]
    | some precision =>
      cases scaled : column.scale <;>
        simp [numberChange, TypedColumn.lacksScale, TypedColumn.spelling, Column.spellingOf,
          declared, scaled]
  · have unlike : numberChange ⟨column, type⟩ ⟨column, type⟩ = [] :=
      if_neg fun alike => number alike.1
    have complete : ¬ (⟨column, type⟩ : TypedColumn).lacksScale = true :=
      fun lacks => number ((TypedColumn.lacksScale_iff _).1 lacks).1
    rw [unlike, if_neg complete]

theorem changes_self (typed : TypedColumn) :
    changes typed typed = if typed.lacksScale then [.setType typed.spelling] else [] := by
  rw [changes, typeChange_eq_nil rfl, defaultChange_eq_nil rfl, nullChange_eq_nil rfl,
    commentChange_eq_nil rfl, textChange_self, numberChange_self]
  rfl

end ColumnDiff

namespace AlterPlan

variable {table : String} {live : List Column} {column : Column} {type : DataType}

/-- The plan that moves a column of a table to the shape that it has. -/
theorem changeColumn_self (distinct : (live.map Column.name).Nodup) (mem : column ∈ live)
    (typed : column.type = .ok type) :
    changeColumn table live column.name column = .ok (.ofChanges
      (if (⟨column, type⟩ : TypedColumn).lacksScale then
        [.alterColumn column.name (.setType (column.spellingOf type))]
      else [])) := by
  refine changeColumn_eq_ok.2
    ⟨column, type, type, Column.find?_of_mem distinct mem, typed, typed, ?_⟩
  rw [ColumnDiff.plan, ColumnDiff.changes_self, if_pos rfl, List.append_nil]
  split <;> rfl

/-- A column needs no change to become itself, unless it is a number that has a precision and no
scale. -/
theorem column_needs_no_change_from_itself_iff (distinct : (live.map Column.name).Nodup)
    (mem : column ∈ live) (typed : column.type = .ok type) :
    changeColumn table live column.name column = .ok .empty ↔
      ¬ (type = .number ∧ column.precision.isSome = true ∧ column.scale = none) := by
  rw [changeColumn_self distinct mem typed]
  have lacks := TypedColumn.lacksScale_iff ⟨column, type⟩
  constructor
  · intro unchanged incomplete
    rw [if_pos (lacks.2 incomplete)] at unchanged
    cases unchanged
  · intro complete
    rw [if_neg (mt lacks.1 complete)]
    rfl

/-- A number with its scale, among other columns. -/
theorem column_needs_no_change_from_itself_iff_at_total :
    let total := ((Column.declare "total" "number").withPrecision 12).withScale 2
    let live := [(Column.declare "code" "varchar").withLimit 10, total]
    (live.map Column.name).Nodup ∧ total ∈ live ∧ total.type = .ok .number ∧
      changeColumn "orders" live "total" total = .ok .empty := by
  intro total live
  have distinct : (live.map Column.name).Nodup := by decide
  have mem : total ∈ live := List.mem_cons_of_mem _ List.mem_cons_self
  have typed : total.type = .ok .number := DataType.resolveZoned_keyword .number
  refine ⟨distinct, mem, typed, (column_needs_no_change_from_itself_iff distinct mem typed).2 ?_⟩
  rintro ⟨-, -, absent⟩
  cases absent

/-- A number with a precision of ten and no scale is given the scale of zero that it has. -/
theorem number_without_scale_differs_from_itself :
    let total := (Column.declare "total" "number").withPrecision 10
    let respelled : AlterPlan :=
      .ofChange (.alterColumn "total" (.setType ⟨.number, some 10, some 0, none, none⟩))
    total.spelling = .ok ⟨.number, some 10, some 0, none, none⟩ ∧
      changeColumn "orders" [total] "total" total = .ok respelled ∧
      respelled.fragments = ["alter column \"total\" set data type number(10,0)"] ∧
      respelled ≠ .empty := by
  intro total respelled
  have typed : total.type = .ok .number := DataType.resolveZoned_keyword .number
  have spelled : total.spelling = .ok ⟨.number, some 10, some 0, none, none⟩ := by
    rw [Column.spelling, Column.dataType, typed]
    rfl
  have changed : changeColumn "orders" [total] "total" total = .ok respelled :=
    changeColumn_eq_ok.2 ⟨total, .number, .number, rfl, typed, typed, by decide⟩
  exact ⟨spelled, changed, by decide +kernel, by decide⟩

end AlterPlan

end WarehouseSchema
