import WarehouseSchema.Proofs.Alter.Parameters

/-!
# The scale of a number whose precision changes

A number of which the precision or the scale changes is spelled with the desired precision, and with
the desired scale or else the live one. The two need not have been declared together: a scale that
was within the live precision may be more than the desired one.

## What is proved

`respelled_number_keeps_within_iff`: between numbers whose scales are within their precisions, every
number that a plan spells has its scale within its precision exactly where no scale is inherited
that is more than the precision asked for. An inherited scale within that precision does no harm,
and neither does a desired one, nor the zero that stands for none. That a plan spells a number is
said of its changes and of its texts alike.
-/

set_option autoImplicit false

namespace WarehouseSchema

/-- The scale of a column is within its precision, where both are set. -/
def Column.ScaleWithin (column : Column) : Prop :=
  ∀ precision scale, column.precision = some precision → column.scale = some scale →
    scale ≤ precision

namespace ColumnDiff

variable {current desired : TypedColumn}

/-- Between numbers a type is spelled where the desired precision or the scale that goes with it is
not the live one, and it is spelled with these two. -/
theorem setType_mem_changes_number_iff {spelling : TypeSpelling} (held : current.type = .number)
    (wanted : desired.type = .number) :
    .setType spelling ∈ changes current desired ↔
      ∃ precision scale, desired.column.precision = some precision ∧
        scale = (desired.column.scale.or current.column.scale).getD 0 ∧
        ¬ (some precision = current.column.precision ∧ some scale = current.column.scale) ∧
        spelling = ⟨.number, some precision, some scale, none, none⟩ := by
  rw [setType_mem_changes_iff, mem_typeChange_iff, mem_textChange_iff, mem_numberChange_iff]
  simp only [held, wanted, ne_eq, not_true_eq_false, false_and, reduceCtorEq, false_or, and_self,
    true_and, ColumnChange.setType.injEq]

end ColumnDiff

namespace AlterPlan

open ColumnDiff

/-- A number that is spelled again has its scale within its precision, unless it inherits a scale
that is more than the precision asked for. -/
theorem respelled_number_keeps_within_iff {table name : String} {live : List Column}
    {current desired : Column} (found : Column.find? live name = some current)
    (held : current.type = .ok .number) (wanted : desired.type = .ok .number)
    (within : current.ScaleWithin) (within' : desired.ScaleWithin) :
    ∃ plan, changeColumn table live name desired = .ok plan ∧
      (∀ spelling, .alterColumn name (.setType spelling) ∈ plan.changes →
        ∃ precision scale, spelling = ⟨.number, some precision, some scale, none, none⟩) ∧
      (∀ fragment ∈ plan.fragments, Quoted.readsAsRetyping name fragment = true →
        ∃ precision scale, fragment = Quoted.retyping name ("number(" ++
          TypeSpelling.parameter precision ++ "," ++ TypeSpelling.parameter scale ++ ")")) ∧
      (∀ precision scale,
        Quoted.retyping name ("number(" ++ TypeSpelling.parameter precision ++ "," ++
            TypeSpelling.parameter scale ++ ")") ∈ plan.fragments ↔
          .alterColumn name (.setType ⟨.number, some precision, some scale, none, none⟩) ∈
            plan.changes) ∧
      ((∀ precision scale,
          .alterColumn name (.setType ⟨.number, some precision, some scale, none, none⟩) ∈
            plan.changes → scale ≤ precision) ↔
        ∀ precision scale, desired.precision = some precision → desired.scale = none →
          current.scale = some scale → scale ≤ precision) := by
  refine ⟨_, changeColumn_eq_ok.2 ⟨current, _, _, found, held, wanted, rfl⟩, ?_, ?_, ?_, ?_⟩
  · intro spelling spelled
    rw [alterColumn_mem_plan_iff, setType_mem_changes_number_iff rfl rfl] at spelled
    obtain ⟨precision, scale, -, -, -, same⟩ := spelled
    exact ⟨precision, scale, same⟩
  · intro fragment mem retypes
    obtain ⟨spelling, among, rfl⟩ := mem_fragments_and_readsAsRetyping_iff.1 ⟨mem, retypes⟩
    obtain ⟨precision, scale, -, -, -, rfl⟩ := (setType_mem_changes_number_iff rfl rfl).1 among
    exact ⟨precision, scale, retyping_number name precision scale⟩
  · intro precision scale
    let change : ColumnChange := .setType ⟨.number, some precision, some scale, none, none⟩
    have fits : change.Fits := ⟨nofun, fun _ => rfl, nofun⟩
    rw [← retyping_number]
    exact (legible_plan name _ _).mem_fragments_iff (TableChange.read?_alterColumn name fits)
  · simp only [alterColumn_mem_plan_iff]
    constructor
    · intro keeps precision scale asked unscaled inherited
      refine Decidable.byContradiction fun beyond => ?_
      refine beyond (keeps precision scale ?_)
      refine (setType_mem_changes_number_iff rfl rfl).2 ⟨precision, scale, asked, ?_, ?_, rfl⟩
      · simp [unscaled, inherited]
      -- The live scale is within the live precision, so the precision that is asked for is another.
      · rintro ⟨same, -⟩
        exact beyond (within precision scale same.symm inherited)
    · intro fits precision scale spelled
      obtain ⟨_, _, asked, rfl, -, same⟩ := (setType_mem_changes_number_iff rfl rfl).1 spelled
      cases same
      cases scaled : desired.scale with
      | some own => exact within' precision own asked scaled
      | none =>
        cases inherited : current.scale with
        | some other => exact fits precision other asked scaled inherited
        | none => exact UInt32.le_iff_toNat_le.2 (Nat.zero_le _)

/-- A number inherits a scale that is within the larger precision. -/
theorem respelled_number_keeps_within_iff_at_total :
    let current := ((Column.declare "total" "number").withPrecision 10).withScale 2
    let desired := (Column.declare "total" "number").withPrecision 12
    let respelled : AlterPlan :=
      .ofChange (.alterColumn "total" (.setType ⟨.number, some 12, some 2, none, none⟩))
    current.ScaleWithin ∧ desired.ScaleWithin ∧
      changeColumn "orders" [current] "total" desired = .ok respelled ∧
      respelled.fragments = ["alter column \"total\" set data type number(12,2)"] ∧
      ∀ precision scale,
        .alterColumn "total" (.setType ⟨.number, some precision, some scale, none, none⟩) ∈
          respelled.changes → scale ≤ precision := by
  intro current desired respelled
  have held : current.type = .ok .number := DataType.resolveZoned_keyword .number
  have wanted : desired.type = .ok .number := DataType.resolveZoned_keyword .number
  have within : current.ScaleWithin := by
    rintro _ _ ⟨⟩ ⟨⟩
    decide
  have within' : desired.ScaleWithin := by
    rintro _ _ - ⟨⟩
  have changed : changeColumn "orders" [current] "total" desired = .ok respelled :=
    changeColumn_eq_ok.2 ⟨current, .number, .number, rfl, held, wanted, by decide⟩
  have found : Column.find? [current] "total" = some current := rfl
  obtain ⟨plan, planned, -, -, -, keeps⟩ :=
    respelled_number_keeps_within_iff found held wanted within within'
  cases changed.symm.trans planned
  refine ⟨within, within', changed, by decide +kernel, keeps.2 ?_⟩
  rintro _ _ ⟨⟩ - ⟨⟩
  decide

/-- A number with eight of ten digits behind the point inherits all eight of them with a precision
of four. -/
theorem inherited_scale_exceeds_the_precision :
    let current := ((Column.declare "total" "number").withPrecision 10).withScale 8
    let desired := (Column.declare "total" "number").withPrecision 4
    let respelled : AlterPlan :=
      .ofChange (.alterColumn "total" (.setType ⟨.number, some 4, some 8, none, none⟩))
    current.ScaleWithin ∧ desired.ScaleWithin ∧
      changeColumn "orders" [current] "total" desired = .ok respelled ∧
      respelled.statements "orders" =
        ["alter table \"orders\" alter column \"total\" set data type number(4,8)"] ∧
      ¬ (8 : UInt32) ≤ 4 := by
  intro current desired respelled
  have number (column : Column) (declared : column.typeName = "number")
      (bare : column.zoned = false) : column.type = .ok .number := by
    rw [Column.type, declared, bare]
    exact DataType.resolveZoned_keyword .number
  refine ⟨?_, ?_, changeColumn_eq_ok.2 ⟨current, .number, .number, rfl, number current rfl rfl,
    number desired rfl rfl, by decide⟩, by decide +kernel, by decide⟩
  · rintro _ _ ⟨⟩ ⟨⟩
    decide
  · rintro _ _ - ⟨⟩

end AlterPlan

end WarehouseSchema
