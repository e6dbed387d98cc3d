import WarehouseSchema.Proofs.Alter.Reading

/-!
# What the changes of a plan are about

A change to a column is about one field of it: the type with its parameters, the default, whether
nulls are allowed, or the comment. A plan for a column is made of sections, and no section changes a
field that belongs to another one. So what a plan does to a field is told by the sections of that
field alone: `touches_iff` says whether the plan changes the field at all, and for the default and
the comment when it does.

That a plan changes a field is said of its texts. By `legible_plan` each of them is read as the
change that it was written for.
-/

set_option autoImplicit false

namespace WarehouseSchema

/-- The fields of a column that a plan may change, the name left aside. -/
inductive ColumnField where
  | type
  | default
  | nullable
  | comment
  deriving DecidableEq, Repr

/-- The field that a change is about. -/
def ColumnChange.field : ColumnChange → ColumnField
  | .setType _ => .type
  | .setDefault _ | .dropDefault => .default
  | .setNotNull | .dropNotNull => .nullable
  | .setComment _ | .unsetComment => .comment

/-- Whether a plan changes a field of the column of a name: one of its texts is read as a change
that is about the field. -/
def AlterPlan.Touches (plan : AlterPlan) (name : String) (field : ColumnField) : Prop :=
  ∃ fragment ∈ plan.fragments, ∃ change,
    TableChange.read? name fragment = some (.alterColumn name change) ∧ change.field = field

namespace ColumnDiff

variable {current desired : TypedColumn} {change : ColumnChange} {name : String}

/-- The sections of a plan that are about a field. -/
def about (field : ColumnField) (current desired : TypedColumn) : List ColumnChange :=
  match field with
  | .type => typeChange current desired ++ textChange current desired ++ numberChange current desired
  | .default => defaultChange current desired
  | .nullable => nullChange current desired
  | .comment => commentChange current desired

/-! ## What each section writes

Each law says when a section writes a change and which. Nothing else opens a section to ask that. -/

/-- The first section spells the desired type where the warehouse keeps the two types apart. -/
theorem mem_typeChange_iff :
    change ∈ typeChange current desired ↔
      current.type.stored ≠ desired.type.stored ∧ change = .setType desired.spelling := by
  rw [typeChange, List.mem_ite_nil_left, List.mem_singleton]

/-- The default is given or dropped where the two are not written alike. -/
theorem mem_defaultChange_iff :
    change ∈ defaultChange current desired ↔
      current.defaultText ≠ desired.defaultText ∧
        change = desired.defaultText.elim .dropDefault .setDefault := by
  rw [defaultChange, List.mem_ite_nil_left]
  refine and_congr_right fun _ => ?_
  cases desired.defaultText <;> exact List.mem_singleton

/-- Nulls are allowed or forbidden where the two columns disagree. -/
theorem mem_nullChange_iff :
    change ∈ nullChange current desired ↔
      current.column.nullable ≠ desired.column.nullable ∧
        change = if desired.column.nullable then .dropNotNull else .setNotNull := by
  rw [nullChange, List.mem_ite_nil_left]
  refine and_congr_right fun _ => ?_
  cases desired.column.nullable <;> exact List.mem_singleton

/-- The comment is given or taken away where the two are not the same, an empty one included. -/
theorem mem_commentChange_iff :
    change ∈ commentChange current desired ↔
      current.column.comment ≠ desired.column.comment ∧
        change = desired.column.comment.elim .unsetComment .setComment := by
  rw [commentChange, List.mem_ite_nil_left]
  refine and_congr_right fun _ => ?_
  cases desired.column.comment <;> exact List.mem_singleton

/-- A parameter differs where it is desired and not the live one. -/
theorem differs_iff {α : Type} [DecidableEq α] {wanted held : Option α} :
    differs wanted held = true ↔ wanted ≠ none ∧ wanted ≠ held := by
  rw [differs, Bool.and_eq_true, bne_iff_ne, Option.isSome_iff_ne_none]

/-- The length and the collation of a text are spelled together where one of them is desired and not
the live one. -/
theorem mem_textChange_iff :
    change ∈ textChange current desired ↔
      (current.type = .varchar ∧ desired.type = .varchar ∧
        ((desired.column.limit ≠ none ∧ desired.column.limit ≠ current.column.limit) ∨
          (desired.column.collation ≠ none ∧
            desired.column.collation ≠ current.column.collation))) ∧
        change = .setType desired.spelling := by
  rw [textChange, List.mem_ite_nil_right, List.mem_singleton]
  simp only [Bool.or_eq_true, differs_iff]

/-- A number with a desired precision is spelled where the precision, or the scale that goes with
it, is not the live one. -/
theorem mem_numberChange_iff :
    change ∈ numberChange current desired ↔
      (current.type = .number ∧ desired.type = .number) ∧
        ∃ precision scale, desired.column.precision = some precision ∧
          scale = (desired.column.scale.or current.column.scale).getD 0 ∧
          ¬ (some precision = current.column.precision ∧ some scale = current.column.scale) ∧
          change = .setType ⟨.number, some precision, some scale, none, none⟩ := by
  rw [numberChange, List.mem_ite_nil_right]
  refine and_congr_right fun _ => ?_
  cases desired.column.precision with
  | none => simp
  | some precision =>
    dsimp only
    rw [List.mem_ite_nil_left, List.mem_singleton]
    simp

/-! ## The field of each section -/

theorem field_of_mem_typeChange (mem : change ∈ typeChange current desired) :
    change.field = .type := by
  obtain ⟨-, rfl⟩ := mem_typeChange_iff.1 mem
  rfl

theorem field_of_mem_defaultChange (mem : change ∈ defaultChange current desired) :
    change.field = .default := by
  obtain ⟨-, rfl⟩ := mem_defaultChange_iff.1 mem
  cases desired.defaultText <;> rfl

theorem field_of_mem_nullChange (mem : change ∈ nullChange current desired) :
    change.field = .nullable := by
  obtain ⟨-, rfl⟩ := mem_nullChange_iff.1 mem
  cases desired.column.nullable <;> rfl

theorem field_of_mem_commentChange (mem : change ∈ commentChange current desired) :
    change.field = .comment := by
  obtain ⟨-, rfl⟩ := mem_commentChange_iff.1 mem
  cases desired.column.comment <;> rfl

theorem field_of_mem_textChange (mem : change ∈ textChange current desired) :
    change.field = .type := by
  obtain ⟨-, rfl⟩ := mem_textChange_iff.1 mem
  rfl

theorem field_of_mem_numberChange (mem : change ∈ numberChange current desired) :
    change.field = .type := by
  obtain ⟨-, _, _, -, -, -, rfl⟩ := mem_numberChange_iff.1 mem
  rfl

/-! ## The changes about a field -/

/-- Changes that are all about one field are about no other. -/
theorem filter_field_of_forall {changes : List ColumnChange} {own : ColumnField}
    (all : ∀ change ∈ changes, change.field = own) (field : ColumnField) :
    changes.filter (fun change => change.field = field) = if own = field then changes else [] := by
  split
  · rename_i same
    exact List.filter_eq_self.2 fun change mem => by simp [all change mem, same]
  · rename_i other
    exact List.filter_eq_nil_iff.2 fun change mem => by simp [all change mem, other]

/-- The changes about a field are those of its sections, in order. -/
theorem filter_changes (field : ColumnField) (current desired : TypedColumn) :
    (changes current desired).filter (fun change => change.field = field) =
      about field current desired := by
  simp only [changes, List.filter_append,
    filter_field_of_forall fun _ => field_of_mem_typeChange,
    filter_field_of_forall fun _ => field_of_mem_defaultChange,
    filter_field_of_forall fun _ => field_of_mem_nullChange,
    filter_field_of_forall fun _ => field_of_mem_commentChange,
    filter_field_of_forall fun _ => field_of_mem_textChange,
    filter_field_of_forall fun _ => field_of_mem_numberChange]
  cases field <;> simp [about]

/-- A change is made where the sections of its field make it. -/
theorem mem_changes_iff :
    change ∈ changes current desired ↔ change ∈ about change.field current desired := by
  simp [← filter_changes, List.mem_filter]

/-- A type is spelled by one of the three sections that compare types. -/
theorem setType_mem_changes_iff {spelling : TypeSpelling} :
    .setType spelling ∈ changes current desired ↔
      .setType spelling ∈ typeChange current desired ∨
        .setType spelling ∈ textChange current desired ∨
          .setType spelling ∈ numberChange current desired := by
  rw [mem_changes_iff, ColumnChange.field, about, List.mem_append, List.mem_append, or_assoc]

/-- What a plan does to the column of its name are the changes between the two columns. -/
theorem alterColumn_mem_plan_iff :
    .alterColumn name change ∈ (plan name current desired).changes ↔
      change ∈ changes current desired := by
  have noRename : TableChange.alterColumn name change ∉
      (if desired.column.name = name then [] else [.renameColumn name desired.column.name]) := by
    split <;> simp
  rw [plan, AlterPlan.ofChanges, List.mem_append]
  simp only [noRename, or_false, List.mem_map, TableChange.alterColumn.injEq, true_and,
    exists_eq_right]

/-! ## The texts of a plan -/

/-- A section spells the type that is desired, or a number with a precision and a scale. -/
theorem fits_of_mem_changes (mem : change ∈ changes current desired) : change.Fits := by
  cases change with
  | setType spelling =>
    rw [setType_mem_changes_iff, mem_typeChange_iff, mem_textChange_iff, mem_numberChange_iff]
      at mem
    obtain ⟨-, same⟩ | ⟨-, same⟩ | ⟨-, precision, scale, -, -, -, same⟩ := mem
    · cases same
      exact Column.fits_spellingOf _ _
    · cases same
      exact Column.fits_spellingOf _ _
    · cases same
      exact ⟨nofun, fun _ => rfl, nofun⟩
  | _ => trivial

/-- Every text of a plan for a column is read as the change that it was written for. -/
theorem legible_plan (name : String) (current desired : TypedColumn) :
    (plan name current desired).Legible name := by
  intro change mem
  obtain altered | renamed := List.mem_append.1 mem
  · obtain ⟨own, among, rfl⟩ := List.mem_map.1 altered
    exact TableChange.read?_alterColumn name (fits_of_mem_changes among)
  · obtain ⟨-, single⟩ := List.mem_ite_nil_left.1 renamed
    cases List.mem_singleton.1 single
    exact TableChange.read?_renameColumn name desired.column.name

/-- A plan changes a field exactly where a section of the field writes a change. -/
theorem touches_iff {field : ColumnField} :
    (plan name current desired).Touches name field ↔
      ∃ change, change ∈ about field current desired := by
  have legible := legible_plan name current desired
  constructor
  · rintro ⟨fragment, mem, change, reads, rfl⟩
    obtain ⟨written, among, rfl⟩ := List.mem_map.1 mem
    cases (legible written among).symm.trans reads
    exact ⟨change, mem_changes_iff.1 (alterColumn_mem_plan_iff.1 among)⟩
  · rintro ⟨change, mem⟩
    rw [← filter_changes, List.mem_filter, decide_eq_true_eq] at mem
    have among : .alterColumn name change ∈ (plan name current desired).changes :=
      alterColumn_mem_plan_iff.2 mem.1
    exact ⟨_, List.mem_map_of_mem among, change, legible _ among, mem.2⟩

/-- A plan changes the default exactly where the two are not written alike. -/
theorem touches_default_iff :
    (plan name current desired).Touches name .default ↔
      current.defaultText ≠ desired.defaultText := by
  rw [touches_iff, about]
  simp only [mem_defaultChange_iff, exists_and_left, exists_eq, and_true]

/-- A plan changes the comment exactly where the two are not the same. -/
theorem touches_comment_iff :
    (plan name current desired).Touches name .comment ↔
      current.column.comment ≠ desired.column.comment := by
  rw [touches_iff, about]
  simp only [mem_commentChange_iff, exists_and_left, exists_eq, and_true]

end ColumnDiff

end WarehouseSchema
