import WarehouseSchema.Proofs.Alter.Convergence
import WarehouseSchema.Proofs.Alter.Fields

/-!
# The order of the changes in a plan for a column

A plan that moves a column is made of seven sections. Three of them spell a type, each guarded by a
comparison of types of its own: the first by the types as they are kept, the other two by the types
as they are declared. The last section gives the column its new name.

## What is proved

`changeColumn_keeps_order`: a plan for a column exists unless no column has the name, or else the
type of the live column or of the desired one is unknown. Its texts come from the sections in
their order, at most one from each, and exactly those that `ColumnSection.Writes` asks for. All but
the last address the column by its old name, and at most one of them spells a type.

`ColumnSection.Writes` says which text a section writes and when, with one constructor for each.
-/

set_option autoImplicit false

namespace WarehouseSchema

/-- A part of a plan for a column, named for what it looks at. -/
inductive ColumnSection where
  | type
  | default
  | nullable
  | comment
  /-- The length and the collation of a text. -/
  | text
  /-- The precision and the scale of a number. -/
  | number
  | name
  deriving DecidableEq, Repr

namespace ColumnSection

/-- The sections in the order in which a plan goes through them. -/
def inOrder : List ColumnSection := [.type, .default, .nullable, .comment, .text, .number, .name]

/-- A plan goes through every section. -/
theorem mem_inOrder (part : ColumnSection) : part ∈ inOrder := by cases part <;> decide

/-- Whether a section spells a type. -/
def retypes : ColumnSection → Bool
  | .type | .text | .number => true
  | _ => false

open Quoted in
/-- The text that a section writes between two shapes of the column of a name. -/
inductive Writes (name : String) (current desired : TypedColumn) :
    ColumnSection → String → Prop where
  | type (apart : current.type.stored ≠ desired.type.stored) :
      Writes name current desired .type (retyping name desired.spelling.render)
  | default (apart : current.defaultText ≠ desired.defaultText) :
      Writes name current desired .default
        (alteration name (desired.defaultText.elim "drop default" ("set default " ++ ·)))
  | nullable (apart : current.column.nullable ≠ desired.column.nullable) :
      Writes name current desired .nullable
        (alteration name (if desired.column.nullable then "drop not null" else "set not null"))
  | comment (apart : current.column.comment ≠ desired.column.comment) :
      Writes name current desired .comment
        (alteration name
          (desired.column.comment.elim "unset comment" fun text => "comment " ++ literal text))
  | text (held : current.type = .varchar) (wanted : desired.type = .varchar)
      (apart : (desired.column.limit ≠ none ∧ desired.column.limit ≠ current.column.limit) ∨
        (desired.column.collation ≠ none ∧ desired.column.collation ≠ current.column.collation)) :
      Writes name current desired .text (retyping name desired.spelling.render)
  /-- A scale that is not desired is the live one, or zero where there is none. -/
  | number {precision scale : UInt32} (held : current.type = .number)
      (wanted : desired.type = .number) (asked : desired.column.precision = some precision)
      (scaled : scale = (desired.column.scale.or current.column.scale).getD 0)
      (apart : ¬ (some precision = current.column.precision ∧
        some scale = current.column.scale)) :
      Writes name current desired .number
        (retyping name ("number(" ++ TypeSpelling.parameter precision ++ "," ++
          TypeSpelling.parameter scale ++ ")"))
  | name (apart : desired.column.name ≠ name) :
      Writes name current desired .name (rename name desired.column.name)

end ColumnSection

/-- Whether the text of a change spells a type for the column of a name. -/
def Quoted.readsAsRetyping (name fragment : String) : Bool :=
  ("alter column " ++ identifier name ++ " " ++ "set data type ").toList.isPrefixOf fragment.toList

namespace ColumnDiff

variable {current desired : TypedColumn} {name : String}

/-! ## The texts, section by section -/

/-- The texts of changes to the column of a name. -/
def altered (name : String) (changes : List ColumnChange) : List String :=
  changes.map fun change => Quoted.alteration name change.render

/-- What a section adds to the texts of a plan. -/
def written (name : String) (current desired : TypedColumn) : ColumnSection → List String
  | .type => altered name (typeChange current desired)
  | .default => altered name (defaultChange current desired)
  | .nullable => altered name (nullChange current desired)
  | .comment => altered name (commentChange current desired)
  | .text => altered name (textChange current desired)
  | .number => altered name (numberChange current desired)
  | .name => if desired.column.name = name then [] else [Quoted.rename name desired.column.name]

/-- The texts of a plan are those of the changes, and last the new name. -/
theorem fragments_plan (name : String) (current desired : TypedColumn) :
    (plan name current desired).fragments =
      altered name (changes current desired) ++ written name current desired .name := by
  have renames : (if desired.column.name = name then []
      else [TableChange.renameColumn name desired.column.name]).map TableChange.render =
        written name current desired .name :=
    apply_ite (List.map TableChange.render) _ _ _
  rw [AlterPlan.fragments, plan, AlterPlan.ofChanges, List.map_append, List.map_map, renames]
  rfl

/-- The texts of a plan are those of its sections, in their order. -/
theorem fragments_plan_eq_flatMap (name : String) (current desired : TypedColumn) :
    (plan name current desired).fragments =
      ColumnSection.inOrder.flatMap (written name current desired) := by
  rw [fragments_plan]
  simp [changes, altered, ColumnSection.inOrder, written]

/-- The text that gives a default, or drops it. -/
theorem render_defaultChange (text : Option String) :
    (text.elim ColumnChange.dropDefault .setDefault).render =
      text.elim "drop default" ("set default " ++ ·) := by
  cases text <;> rfl

/-- The text that allows nulls, or forbids them. -/
theorem render_nullChange (nullable : Bool) :
    (if nullable then ColumnChange.dropNotNull else .setNotNull).render =
      if nullable then "drop not null" else "set not null" := by
  cases nullable <;> rfl

/-- The text that gives a comment, or takes it away. -/
theorem render_commentChange (text : Option String) :
    (text.elim ColumnChange.unsetComment .setComment).render =
      text.elim "unset comment" fun text => "comment " ++ Quoted.literal text := by
  cases text <;> rfl

/-- The text that spells a number with a precision and a scale. -/
theorem retyping_number (name : String) (precision scale : UInt32) :
    Quoted.alteration name
        (ColumnChange.setType ⟨.number, some precision, some scale, none, none⟩).render =
      Quoted.retyping name ("number(" ++ TypeSpelling.parameter precision ++ "," ++
        TypeSpelling.parameter scale ++ ")") :=
  congrArg (Quoted.retyping name) (TypeSpelling.render_number precision scale)

/-- Each change has one text. -/
theorem length_altered (name : String) (changes : List ColumnChange) :
    (altered name changes).length = changes.length :=
  List.length_map _

/-- A text of changes is that of one of them. -/
theorem mem_altered_iff {changes : List ColumnChange} {fragment : String} :
    fragment ∈ altered name changes ↔
      ∃ change ∈ changes, Quoted.alteration name change.render = fragment :=
  List.mem_map

/-- Every text of a section is one that the section writes. -/
theorem writes_of_mem_written {part : ColumnSection} {fragment : String}
    (mem : fragment ∈ written name current desired part) :
    part.Writes name current desired fragment := by
  cases part with
  | type =>
    obtain ⟨_, among, rfl⟩ := mem_altered_iff.1 mem
    obtain ⟨apart, rfl⟩ := mem_typeChange_iff.1 among
    exact .type apart
  | default =>
    obtain ⟨_, among, rfl⟩ := mem_altered_iff.1 mem
    obtain ⟨apart, rfl⟩ := mem_defaultChange_iff.1 among
    rw [render_defaultChange]
    exact .default apart
  | nullable =>
    obtain ⟨_, among, rfl⟩ := mem_altered_iff.1 mem
    obtain ⟨apart, rfl⟩ := mem_nullChange_iff.1 among
    rw [render_nullChange]
    exact .nullable apart
  | comment =>
    obtain ⟨_, among, rfl⟩ := mem_altered_iff.1 mem
    obtain ⟨apart, rfl⟩ := mem_commentChange_iff.1 among
    rw [render_commentChange]
    exact .comment apart
  | text =>
    obtain ⟨_, among, rfl⟩ := mem_altered_iff.1 mem
    obtain ⟨⟨held, wanted, apart⟩, rfl⟩ := mem_textChange_iff.1 among
    exact .text held wanted apart
  | number =>
    obtain ⟨_, among, rfl⟩ := mem_altered_iff.1 mem
    obtain ⟨⟨held, wanted⟩, _, _, asked, scaled, apart, rfl⟩ := mem_numberChange_iff.1 among
    rw [retyping_number]
    exact .number held wanted asked scaled apart
  | name =>
    obtain ⟨apart, mem⟩ := List.mem_ite_nil_left.1 mem
    cases List.mem_singleton.1 mem
    exact .name apart

/-- Every text that a section writes is one of its texts. -/
theorem mem_written_of_writes {part : ColumnSection} {fragment : String}
    (writes : part.Writes name current desired fragment) :
    fragment ∈ written name current desired part := by
  cases writes with
  | type apart => exact mem_altered_iff.2 ⟨_, mem_typeChange_iff.2 ⟨apart, rfl⟩, rfl⟩
  | default apart =>
    rw [← render_defaultChange]
    exact mem_altered_iff.2 ⟨_, mem_defaultChange_iff.2 ⟨apart, rfl⟩, rfl⟩
  | nullable apart =>
    rw [← render_nullChange]
    exact mem_altered_iff.2 ⟨_, mem_nullChange_iff.2 ⟨apart, rfl⟩, rfl⟩
  | comment apart =>
    rw [← render_commentChange]
    exact mem_altered_iff.2 ⟨_, mem_commentChange_iff.2 ⟨apart, rfl⟩, rfl⟩
  | text held wanted apart =>
    exact mem_altered_iff.2 ⟨_, mem_textChange_iff.2 ⟨⟨held, wanted, apart⟩, rfl⟩, rfl⟩
  | number held wanted asked scaled apart =>
    rw [← retyping_number]
    exact mem_altered_iff.2 ⟨_, mem_numberChange_iff.2
      ⟨⟨held, wanted⟩, _, _, asked, scaled, apart, rfl⟩, rfl⟩
  | name apart => exact List.mem_ite_nil_left.2 ⟨apart, List.mem_singleton_self _⟩

theorem mem_written_iff {part : ColumnSection} {fragment : String} :
    fragment ∈ written name current desired part ↔ part.Writes name current desired fragment :=
  ⟨writes_of_mem_written, mem_written_of_writes⟩

/-- No section writes more than one text. -/
theorem length_written_le (name : String) (current desired : TypedColumn) (part : ColumnSection) :
    (written name current desired part).length ≤ 1 := by
  cases part with
  | type =>
    rw [written, length_altered, typeChange]
    split <;> simp
  | default =>
    rw [written, length_altered, defaultChange]
    split
    · simp
    · cases desired.defaultText <;> simp
  | nullable =>
    rw [written, length_altered, nullChange]
    split
    · simp
    · split <;> simp
  | comment =>
    rw [written, length_altered, commentChange]
    split
    · simp
    · cases desired.column.comment <;> simp
  | text =>
    rw [written, length_altered, textChange]
    split <;> simp
  | number =>
    rw [written, length_altered]
    rcases numberChange_cases current desired with silent | ⟨spelling, -, spelled, -⟩
    · simp [silent]
    · simp [spelled]
  | name =>
    rw [written]
    split <;> simp

/-- The texts of a plan, each under the section that it comes from, stand in the order of the
sections, and no section stands twice. -/
theorem sublist_inOrder (name : String) (current desired : TypedColumn) :
    ((ColumnSection.inOrder.flatMap fun part =>
      (written name current desired part).map (part, ·)).map Prod.fst).Sublist
        ColumnSection.inOrder := by
  generalize ColumnSection.inOrder = parts
  induction parts with
  | nil => exact .slnil
  | cons part rest ih =>
    have one := length_written_le name current desired part
    rw [List.flatMap_cons, List.map_append, List.map_map]
    generalize written name current desired part = own at one
    -- The section adds nothing and is passed over, or adds one text and keeps its place.
    rcases Nat.le_one_iff_eq_zero_or_eq_one.1 one with none | single
    · rw [List.length_eq_zero_iff.1 none]
      exact ih.cons part
    · obtain ⟨fragment, rfl⟩ := List.length_eq_one_iff.1 single
      exact ih.cons_cons part

/-! ## Changes that spell a type -/

/-- Only a change of the type begins as one. -/
theorem setType_prefix_render_iff (change : ColumnChange) :
    "set data type ".toList <+: change.render.toList ↔ change.field = .type := by
  cases change with
  | setType spelling =>
    rw [ColumnChange.render, String.toList_append]
    exact iff_of_true (List.prefix_append _ _) rfl
  | setDefault text =>
    rw [ColumnChange.render, String.toList_append]
    simp [ColumnChange.field]
  | setComment text =>
    rw [ColumnChange.render, String.toList_append]
    simp [ColumnChange.field]
  | dropDefault => simp [ColumnChange.render, ColumnChange.field]
  | setNotNull => simp [ColumnChange.render, ColumnChange.field]
  | dropNotNull => simp [ColumnChange.render, ColumnChange.field]
  | unsetComment => simp [ColumnChange.render, ColumnChange.field]

/-- A text that alters the column spells a type exactly where its change is about the type. -/
theorem readsAsRetyping_alteration (name : String) (change : ColumnChange) :
    Quoted.readsAsRetyping name (Quoted.alteration name change.render) =
      decide (change.field = .type) := by
  rw [Bool.eq_iff_iff, decide_eq_true_eq]
  refine List.isPrefixOf_iff_prefix.trans ?_
  have spelled (rest : String) : (Quoted.alteration name rest).toList =
      ("alter column " ++ Quoted.identifier name ++ " ").toList ++ rest.toList :=
    String.toList_append
  show (Quoted.alteration name "set data type ").toList <+: _ ↔ _
  rw [spelled, spelled, List.prefix_append_right_inj]
  exact setType_prefix_render_iff change

/-- A text that renames the column spells no type. -/
theorem readsAsRetyping_rename (name target : String) :
    Quoted.readsAsRetyping name (Quoted.rename name target) = false := by
  refine Bool.eq_false_iff.2 fun reads => ?_
  -- The two leads differ in their first letter.
  have lead : ("alter column " ++ Quoted.identifier name ++ " " ++ "set data type ").toList <+:
      ("rename column " ++ Quoted.identifier name ++ " to " ++ Quoted.identifier target).toList :=
    List.isPrefixOf_iff_prefix.1 reads
  simp at lead

/-- Changes about one field read as ones that spell a type all together or not at all. -/
theorem readsAsRetyping_of_mem_altered {changes : List ColumnChange} {field : ColumnField}
    {fragment : String} (about : ∀ change ∈ changes, change.field = field)
    (mem : fragment ∈ altered name changes) :
    Quoted.readsAsRetyping name fragment = decide (field = .type) := by
  obtain ⟨change, among, rfl⟩ := mem_altered_iff.1 mem
  rw [readsAsRetyping_alteration, about change among]

/-- A text of a section reads as one that spells a type exactly where the section spells one. -/
theorem readsAsRetyping_of_mem_written {part : ColumnSection} {fragment : String}
    (mem : fragment ∈ written name current desired part) :
    Quoted.readsAsRetyping name fragment = part.retypes := by
  cases part with
  | type => exact readsAsRetyping_of_mem_altered (fun _ => field_of_mem_typeChange) mem
  | default => exact readsAsRetyping_of_mem_altered (fun _ => field_of_mem_defaultChange) mem
  | nullable => exact readsAsRetyping_of_mem_altered (fun _ => field_of_mem_nullChange) mem
  | comment => exact readsAsRetyping_of_mem_altered (fun _ => field_of_mem_commentChange) mem
  | text => exact readsAsRetyping_of_mem_altered (fun _ => field_of_mem_textChange) mem
  | number => exact readsAsRetyping_of_mem_altered (fun _ => field_of_mem_numberChange) mem
  | name =>
    obtain ⟨-, mem⟩ := List.mem_ite_nil_left.1 mem
    rw [List.mem_singleton.1 mem]
    exact readsAsRetyping_rename name desired.column.name

/-- The sections that spell a type never come together. -/
theorem length_about_type_le (current desired : TypedColumn) :
    (about .type current desired).length ≤ 1 := by
  rcases sections_cases current desired with ⟨-, type, text, number⟩ | ⟨spelling, -, sections⟩
  · rw [about, type, text, number]
    exact Nat.zero_le 1
  · rcases sections with ⟨type, text, number⟩ | ⟨type, text, number⟩ | ⟨type, text, number⟩ <;>
      rw [about, type, text, number] <;> exact Nat.le_refl 1

/-- The texts that spell a type are those of the changes about it. -/
theorem filter_readsAsRetyping (name : String) (current desired : TypedColumn) :
    (plan name current desired).fragments.filter (Quoted.readsAsRetyping name) =
      altered name (about .type current desired) := by
  have own : (Quoted.readsAsRetyping name ∘ fun change : ColumnChange =>
      Quoted.alteration name change.render) = fun change => decide (change.field = .type) :=
    funext (readsAsRetyping_alteration name)
  have noRename : (written name current desired .name).filter (Quoted.readsAsRetyping name) = [] :=
    List.filter_eq_nil_iff.2 fun fragment mem => by
      rw [readsAsRetyping_of_mem_written mem]
      exact Bool.false_ne_true
  rw [fragments_plan, List.filter_append, noRename, List.append_nil, altered, List.filter_map, own,
    filter_changes]
  rfl

/-- The texts of a plan that spell a type are those of the spellings among its changes. -/
theorem mem_fragments_and_readsAsRetyping_iff {fragment : String} :
    fragment ∈ (plan name current desired).fragments ∧
        Quoted.readsAsRetyping name fragment = true ↔
      ∃ spelling, .setType spelling ∈ changes current desired ∧
        fragment = Quoted.retyping name spelling.render := by
  rw [← List.mem_filter, filter_readsAsRetyping, mem_altered_iff]
  constructor
  · rintro ⟨change, mem, rfl⟩
    -- Of the changes only one that spells a type is about the type.
    rw [← filter_changes, List.mem_filter, decide_eq_true_eq] at mem
    obtain ⟨among, isType⟩ := mem
    cases change with
    | setType spelling => exact ⟨spelling, among, rfl⟩
    | _ => cases isType
  · rintro ⟨spelling, among, rfl⟩
    exact ⟨.setType spelling, mem_changes_iff.1 among, rfl⟩

end ColumnDiff

namespace AlterPlan

/-- The texts of a plan move the column of a name from one shape to another, section by section. -/
structure KeepsOrder (plan : AlterPlan) (name : String) (current desired : TypedColumn) : Prop where
  /-- Each text stands under its section, and no section comes twice or before an earlier one. -/
  sections : ∃ written : List (ColumnSection × String),
    plan.fragments = written.map Prod.snd ∧
      (written.map Prod.fst).Sublist ColumnSection.inOrder ∧
        ∀ part fragment, (part, fragment) ∈ written ↔ part.Writes name current desired fragment
  /-- The texts that spell a type are those of three sections. -/
  retypes : ∀ (part : ColumnSection) (fragment : String),
    part.Writes name current desired fragment →
      (Quoted.readsAsRetyping name fragment = true ↔
        part = .type ∨ part = .text ∨ part = .number)
  retypedOnce : (plan.fragments.filter (Quoted.readsAsRetyping name)).length ≤ 1
  /-- The column has its old name until it is renamed, and after that nothing is done. -/
  addressed : ∃ actions : List String,
    plan.fragments = actions.map (Quoted.alteration name) ++
      if desired.column.name = name then [] else [Quoted.rename name desired.column.name]
  renamed : Quoted.rename name desired.column.name ∈ plan.fragments ↔ desired.column.name ≠ name
  noFollowUps : plan.followUps = []

open ColumnDiff in
/-- Every plan for a column keeps the order of the sections, whatever the two shapes are. -/
theorem keepsOrder_plan (name : String) (current desired : TypedColumn) :
    (ColumnDiff.plan name current desired).KeepsOrder name current desired where
  sections := by
    refine ⟨ColumnSection.inOrder.flatMap fun part =>
      (written name current desired part).map (part, ·), ?_, sublist_inOrder .., ?_⟩
    · rw [fragments_plan_eq_flatMap, List.map_flatMap]
      simp only [List.map_map, Function.comp_def, List.map_id']
    · intro part fragment
      rw [← mem_written_iff]
      simp [ColumnSection.mem_inOrder]
  retypes part fragment writes := by
    rw [readsAsRetyping_of_mem_written (mem_written_of_writes writes)]
    cases part <;> decide
  retypedOnce := by
    rw [filter_readsAsRetyping, length_altered]
    exact length_about_type_le current desired
  addressed := by
    refine ⟨(ColumnDiff.changes current desired).map ColumnChange.render, ?_⟩
    rw [fragments_plan, List.map_map]
    rfl
  renamed := by
    have legible := legible_plan name current desired
    refine (legible.mem_fragments_iff (TableChange.read?_renameColumn name _)).trans ?_
    simp [ColumnDiff.plan, ofChanges]
  noFollowUps := rfl

/-- A plan for a column is refused where no column has the name, or else where the type of the live
column is unknown, or else where that of the desired one is. Otherwise its texts keep the order of
the sections. -/
theorem changeColumn_keeps_order (table name : String) (live : List Column) (desired : Column) :
    (∀ failure, changeColumn table live name desired = .error failure ↔
      (name ∉ live.map Column.name ∧ failure = .columnNotFound table name) ∨
        ∃ current, Column.find? live name = some current ∧
          (((¬ ∃ type, current.type = .ok type) ∧ failure = .unknownType ⟨current.typeName⟩) ∨
            (∃ type, current.type = .ok type) ∧ (¬ ∃ type, desired.type = .ok type) ∧
              failure = .unknownType ⟨desired.typeName⟩)) ∧
      ∀ current type wanted, Column.find? live name = some current → current.type = .ok type →
        desired.type = .ok wanted → ∃ plan, changeColumn table live name desired = .ok plan ∧
          plan.KeepsOrder name ⟨current, type⟩ ⟨desired, wanted⟩ := by
  refine ⟨fun failure => changeColumn_eq_error, ?_⟩
  intro current type wanted found typed wantedType
  exact ⟨_, changeColumn_eq_ok.2 ⟨current, type, wanted, found, typed, wantedType, rfl⟩,
    keepsOrder_plan ..⟩

/-- A number keeps its type and gets another precision, after all else and before its new name. -/
theorem changeColumn_keeps_order_at_total :
    let held := ((((Column.declare "total" "number").withPrecision 10).withScale 2).withDefault
      (.expression "0")).withComment "gross"
    let live := [Column.declare "id" "number", held]
    let desired := ((Column.declare "sum" "number").withPrecision 12).notNull
    (∃ plan, changeColumn "orders" live "total" desired = .ok plan ∧
      plan.fragments =
        ["alter column \"total\" drop default",
          "alter column \"total\" set not null",
          "alter column \"total\" unset comment",
          "alter column \"total\" set data type number(12,2)",
          "rename column \"total\" to \"sum\""] ∧
      plan.KeepsOrder "total" ⟨held, .number⟩ ⟨desired, .number⟩) ∧
    changeColumn "orders" live "price" desired = .error (.columnNotFound "orders" "price") := by
  intro held live desired
  let plan := ofChanges
    [.alterColumn "total" .dropDefault, .alterColumn "total" .setNotNull,
      .alterColumn "total" .unsetComment,
      .alterColumn "total" (.setType ⟨.number, some 12, some 2, none, none⟩),
      .renameColumn "total" "sum"]
  have heldType : held.type = .ok .number := DataType.resolveZoned_keyword .number
  have wantedType : desired.type = .ok .number := DataType.resolveZoned_keyword .number
  have planned : changeColumn "orders" live "total" desired = .ok plan :=
    changeColumn_eq_ok.2 ⟨held, .number, .number, rfl, heldType, wantedType, by decide⟩
  obtain ⟨found, again, keeps⟩ := (changeColumn_keeps_order "orders" "total" live desired).2
    held .number .number rfl heldType wantedType
  cases planned.symm.trans again
  refine ⟨⟨plan, planned, by decide +kernel, keeps⟩, ?_⟩
  exact ((changeColumn_keeps_order "orders" "price" live desired).1 _).2 (.inl ⟨by decide, rfl⟩)

end AlterPlan

end WarehouseSchema
