import WarehouseSchema.Proofs.Alter.Effect
import WarehouseSchema.Proofs.Alter.Fields
import WarehouseSchema.Proofs.DataType.Spelling

/-!
# A column that was moved needs no further change

The sections of a plan have their own notions of a difference: types as they are stored, defaults
as they are written, parameters only where they are desired, a scale that is kept where none is
desired. Each of them has to be silenced by its own output, and by that of the others.

## What is proved

`changeColumn_converges`: if a plan moves a column to a desired shape, and the texts of the plan are
carried out on the columns as the warehouse holds them, then the plan that moves the column, under
its new name, to the same shape is empty.

The three sections that spell a type never come together, so the column is retyped once or not at
all. `Reaches` is what a spelling must have to silence all three; the spelling of the desired type
has it, and so has the number that the last section spells.
-/

set_option autoImplicit false

namespace WarehouseSchema

namespace Column

/-- A column of a known type is typed by it. -/
theorem typed_of_type {column : Column} {type : DataType} (declared : column.type = .ok type) :
    column.typed = .ok ⟨column, type⟩ := by
  rw [typed, dataType, declared]
  rfl

/-- A column of an unknown type is refused for it. -/
theorem typed_of_error {column : Column} {unknown : UnknownType}
    (declared : column.type = .error unknown) : column.typed = .error (.unknownType unknown) := by
  rw [typed, dataType, declared]
  rfl

/-- The only reason not to type a column is that its type is unknown. -/
theorem typed_eq_error_iff {column : Column} {failure : SchemaError} :
    column.typed = .error failure ↔
      (¬ ∃ type, column.type = .ok type) ∧ failure = .unknownType ⟨column.typeName⟩ := by
  rw [typed, ← dataType_eq_error_iff]
  cases column.dataType <;> simp [Except.map]

end Column

namespace ColumnDiff

/-! ## What silences a section -/

/-- The first section is silent on types that are kept as one. -/
theorem typeChange_eq_nil {current desired : TypedColumn}
    (same : current.type.stored = desired.type.stored) : typeChange current desired = [] :=
  if_pos same

/-- The section on defaults is silent where the two are written alike. -/
theorem defaultChange_eq_nil {current desired : TypedColumn}
    (same : current.defaultText = desired.defaultText) : defaultChange current desired = [] :=
  if_pos same

/-- The section on nulls is silent where the two columns agree. -/
theorem nullChange_eq_nil {current desired : TypedColumn}
    (same : current.column.nullable = desired.column.nullable) : nullChange current desired = [] :=
  if_pos same

/-- The section on comments is silent where the two are the same. -/
theorem commentChange_eq_nil {current desired : TypedColumn}
    (same : current.column.comment = desired.column.comment) :
    commentChange current desired = [] :=
  if_pos same

/-- A parameter does not differ from itself. -/
theorem differs_self {α : Type} [DecidableEq α] (desired : Option α) :
    differs desired desired = false := by
  rw [differs, bne_self_eq_false, Bool.and_false]

/-- Columns of different types have no common parameters to compare. -/
theorem textChange_eq_nil_of_type_ne {current desired : TypedColumn}
    (other : current.type ≠ desired.type) : textChange current desired = [] := by
  refine if_neg fun alike => other ?_
  rw [alike.1, alike.2.1]

/-- Nor have they a common precision to compare. -/
theorem numberChange_eq_nil_of_type_ne {current desired : TypedColumn}
    (other : current.type ≠ desired.type) : numberChange current desired = [] := by
  refine if_neg fun alike => other ?_
  rw [alike.1, alike.2]

/-! ## Spellings that need no further change -/

/-- A column that has just been given the spelled type is of the desired type as far as any section
can tell. -/
structure Reaches (spelling : TypeSpelling) (desired : TypedColumn) : Prop where
  stored : spelling.type.stored = desired.type.stored
  text : ∀ column : Column, textChange ⟨column.retyped spelling, spelling.type⟩ desired = []
  number : ∀ column : Column, numberChange ⟨column.retyped spelling, spelling.type⟩ desired = []

/-- The spelling of the desired type is that of no other. -/
theorem type_spelling (desired : TypedColumn) : desired.spelling.type = desired.type :=
  desired.column.type_spellingOf desired.type

/-- A varchar is spelled with the length and the collation that are desired. -/
theorem textChange_spelling (column : Column) (desired : TypedColumn) :
    textChange ⟨column.retyped desired.spelling, desired.spelling.type⟩ desired = [] := by
  refine if_neg fun ⟨_, varchar, differ⟩ => ?_
  obtain ⟨wanted, type⟩ := desired
  cases varchar
  have alike : (differs wanted.limit wanted.limit || differs wanted.collation wanted.collation) =
      false := by
    rw [differs_self, differs_self]
    rfl
  exact Bool.false_ne_true (alike.symm.trans differ)

/-- A number is spelled with the desired precision and the desired scale, or with zero for one; the
scale that it inherits afterwards is the one that was spelled. -/
theorem numberChange_spelling (column : Column) (desired : TypedColumn) :
    numberChange ⟨column.retyped desired.spelling, desired.spelling.type⟩ desired = [] := by
  obtain ⟨wanted, type⟩ := desired
  unfold numberChange
  split
  · rename_i number
    cases number.2
    split
    · rfl
    · rename_i precision declared
      have wantedPrecision : wanted.precision = some precision := declared
      refine if_pos ⟨declared.symm, ?_⟩
      show some ((wanted.scale.or (wanted.precision.map fun _ => wanted.scale.getD 0)).getD 0) =
        wanted.precision.map fun _ => wanted.scale.getD 0
      rw [wantedPrecision]
      cases wanted.scale <;> rfl
  · rfl

/-- The spelling of the desired type reaches it. -/
theorem reaches_spelling (desired : TypedColumn) : Reaches desired.spelling desired where
  stored := congrArg DataType.stored (type_spelling desired)
  text column := textChange_spelling column desired
  number column := numberChange_spelling column desired

/-- The number that the last section spells reaches the desired one: its scale is the desired one,
or the live one that is kept where none is desired. -/
theorem reaches_number {current desired : TypedColumn} {precision : UInt32}
    (number : desired.type = .number) (wanted : desired.column.precision = some precision) :
    Reaches ⟨.number, some precision,
      some ((desired.column.scale.or current.column.scale).getD 0), none, none⟩ desired where
  stored := congrArg DataType.stored number.symm
  text column := by
    apply if_neg
    intro alike
    cases alike.1
  number column := by
    rw [numberChange, if_pos ⟨rfl, number⟩, wanted]
    refine if_pos ⟨rfl, ?_⟩
    show some ((desired.column.scale.or (some _)).getD 0) = some _
    cases desired.column.scale <;> rfl

/-- Only a varchar is given another length or collation. -/
theorem textChange_cases (current desired : TypedColumn) :
    textChange current desired = [] ∨
      textChange current desired = [.setType desired.spelling] ∧ current.type = .varchar := by
  by_cases differ : current.type = .varchar ∧ desired.type = .varchar ∧
      (differs desired.column.limit current.column.limit ||
        differs desired.column.collation current.column.collation)
  · exact .inr ⟨if_pos differ, differ.1⟩
  · exact .inl (if_neg differ)

/-- Only a number is given another precision or scale. -/
theorem numberChange_cases (current desired : TypedColumn) :
    numberChange current desired = [] ∨
      ∃ spelling, Reaches spelling desired ∧
        numberChange current desired = [.setType spelling] ∧ current.type = .number := by
  by_cases number : current.type = .number ∧ desired.type = .number
  · rw [numberChange, if_pos number]
    cases wanted : desired.column.precision with
    | none => exact .inl rfl
    | some precision =>
      dsimp only
      split
      · exact .inl rfl
      · exact .inr ⟨_, reaches_number number.2 wanted, rfl, number.1⟩
  · exact .inl (if_neg number)

/-- The type is spelled by no section, where the live column needs none, or by one of them, and what
that one spells reaches the desired type. -/
theorem sections_cases (current desired : TypedColumn) :
    (current.type.stored = desired.type.stored ∧ typeChange current desired = [] ∧
      textChange current desired = [] ∧ numberChange current desired = []) ∨
    ∃ spelling, Reaches spelling desired ∧
      ((typeChange current desired = [.setType spelling] ∧
          textChange current desired = [] ∧ numberChange current desired = []) ∨
        (typeChange current desired = [] ∧ textChange current desired = [.setType spelling] ∧
          numberChange current desired = []) ∨
        (typeChange current desired = [] ∧ textChange current desired = [] ∧
          numberChange current desired = [.setType spelling])) := by
  by_cases stored : current.type.stored = desired.type.stored
  · have noType := typeChange_eq_nil stored
    rcases textChange_cases current desired with noText | ⟨text, varchar⟩
    · rcases numberChange_cases current desired with noNumber | ⟨spelling, reaches, number, _⟩
      · exact .inl ⟨stored, noType, noText, noNumber⟩
      · exact .inr ⟨spelling, reaches, .inr (.inr ⟨noType, noText, number⟩)⟩
    -- The two sections on parameters ask for different types.
    · have noNumber : numberChange current desired = [] := by
        apply if_neg
        intro number
        rw [varchar] at number
        cases number.1
      exact .inr ⟨_, reaches_spelling desired, .inr (.inl ⟨noType, text, noNumber⟩)⟩
  · have other : current.type ≠ desired.type := fun same => stored (congrArg DataType.stored same)
    refine .inr ⟨desired.spelling, reaches_spelling desired, .inl ⟨if_neg stored, ?_, ?_⟩⟩
    · exact textChange_eq_nil_of_type_ne other
    · exact numberChange_eq_nil_of_type_ne other

/-! ## The column that was moved -/

/-- The column with the default, the null flag and the comment that are desired. -/
def settled (column : Column) (desired : TypedColumn) : Column :=
  { column with
    default := desired.defaultText.map .expression
    nullable := desired.column.nullable
    comment := desired.column.comment }

/-- The section on defaults leaves the column with the desired default. -/
theorem applyAll_defaultChange {current : TypedColumn} (desired : TypedColumn) (column : Column)
    (held : column.default = current.defaultText.map .expression) :
    ColumnChange.applyAll (defaultChange current desired) column =
      { column with default := desired.defaultText.map .expression } := by
  rw [defaultChange]
  split
  · rename_i same
    rw [ColumnChange.applyAll_nil, ← same, ← held]
  · cases desired.defaultText <;> rfl

/-- The section on nulls leaves the column with the desired flag. -/
theorem applyAll_nullChange {current : TypedColumn} (desired : TypedColumn) (column : Column)
    (held : column.nullable = current.column.nullable) :
    ColumnChange.applyAll (nullChange current desired) column =
      { column with nullable := desired.column.nullable } := by
  rw [nullChange]
  split
  · rename_i same
    rw [ColumnChange.applyAll_nil, ← same, ← held]
  · cases desired.column.nullable <;> rfl

/-- The section on comments leaves the column with the desired comment. -/
theorem applyAll_commentChange {current : TypedColumn} (desired : TypedColumn) (column : Column)
    (held : column.comment = current.column.comment) :
    ColumnChange.applyAll (commentChange current desired) column =
      { column with comment := desired.column.comment } := by
  rw [commentChange]
  split
  · rename_i same
    rw [ColumnChange.applyAll_nil, ← same, ← held]
  · cases desired.column.comment <;> rfl

/-- The changes that spell no type leave a column settled, whatever its type has become. -/
theorem applyAll_settling {current : TypedColumn} (desired : TypedColumn) (column : Column)
    (default : column.default = current.defaultText.map .expression)
    (nullable : column.nullable = current.column.nullable)
    (comment : column.comment = current.column.comment) :
    ColumnChange.applyAll (commentChange current desired)
        (ColumnChange.applyAll (nullChange current desired)
          (ColumnChange.applyAll (defaultChange current desired) column)) =
      settled column desired := by
  let withDefault : Column := { column with default := desired.defaultText.map .expression }
  let withNull : Column := { withDefault with nullable := desired.column.nullable }
  have first : ColumnChange.applyAll (defaultChange current desired) column = withDefault :=
    applyAll_defaultChange desired column default
  have second : ColumnChange.applyAll (nullChange current desired) withDefault = withNull :=
    applyAll_nullChange desired withDefault nullable
  rw [first, second]
  exact applyAll_commentChange desired withNull comment

/-- All changes together settle the column and retype it at most once, after which the types agree
as far as any section can tell. -/
theorem applyAll_changes_cases {current : TypedColumn} (desired : TypedColumn) (column : Column)
    (default : column.default = current.defaultText.map .expression)
    (nullable : column.nullable = current.column.nullable)
    (comment : column.comment = current.column.comment) :
    (current.type.stored = desired.type.stored ∧ textChange current desired = [] ∧
      numberChange current desired = [] ∧
      ColumnChange.applyAll (changes current desired) column = settled column desired) ∨
    ∃ spelling, Reaches spelling desired ∧
      ColumnChange.applyAll (changes current desired) column =
        (settled column desired).retyped spelling := by
  have settles := applyAll_settling desired column default nullable comment
  simp only [changes, ColumnChange.applyAll_append]
  obtain ⟨stored, type, text, number⟩ | ⟨spelling, reaches, sections⟩ :=
    sections_cases current desired
  · rw [type, text, number]
    exact .inl ⟨stored, rfl, rfl, settles⟩
  -- A type that is spelled first outlasts the rest; one that is spelled last keeps what is settled.
  · refine .inr ⟨spelling, reaches, ?_⟩
    obtain ⟨type, text, number⟩ | ⟨type, text, number⟩ | ⟨type, text, number⟩ := sections
    · rw [type, text, number]
      exact applyAll_settling desired (column.retyped spelling) default nullable comment
    · rw [type, text, number]
      exact congrArg (Column.retyped · spelling) settles
    · rw [type, text, number]
      exact congrArg (Column.retyped · spelling) settles

/-- A settled column the type of which is reached needs no change. -/
theorem changes_eq_nil {moved desired : TypedColumn}
    (default : moved.column.default = desired.defaultText.map .expression)
    (nullable : moved.column.nullable = desired.column.nullable)
    (comment : moved.column.comment = desired.column.comment)
    (stored : moved.type.stored = desired.type.stored)
    (text : textChange moved desired = []) (number : numberChange moved desired = []) :
    changes moved desired = [] := by
  have written : moved.defaultText = desired.defaultText := by
    rw [TypedColumn.defaultText, Column.defaultText, default, Option.map_map]
    exact Option.map_id'
  rw [changes, typeChange_eq_nil stored, defaultChange_eq_nil written, nullChange_eq_nil nullable,
    commentChange_eq_nil comment, text, number]
  rfl

/-- What a plan makes of the column that it moves. -/
def moved (current desired : TypedColumn) (column : Column) : Column :=
  (ColumnChange.applyAll (changes current desired) column).withName desired.column.name

/-- A column that was moved has a known type and needs no change. -/
theorem exists_changes_eq_nil (current desired : TypedColumn)
    (typed : current.column.type = .ok current.type) :
    ∃ type, (moved current desired current.column.held).type = .ok type ∧
      changes ⟨moved current desired current.column.held, type⟩ desired = [] := by
  have held : current.column.held =
      { current.column with default := current.defaultText.map .expression } :=
    Column.held_of_type typed
  let target := (settled current.column desired).withName desired.column.name
  rw [held]
  obtain ⟨stored, text, number, settles⟩ | ⟨spelling, reaches, retypes⟩ :=
    applyAll_changes_cases desired
      { current.column with default := current.defaultText.map .expression } rfl rfl rfl
  · have shape : moved current desired
        { current.column with default := current.defaultText.map .expression } = target :=
      congrArg (Column.withName · desired.column.name) settles
    rw [shape]
    -- The sections on parameters look at none of the fields that were settled.
    exact ⟨current.type, typed, changes_eq_nil rfl rfl rfl stored text number⟩
  · have shape : moved current desired
        { current.column with default := current.defaultText.map .expression } =
          target.retyped spelling :=
      congrArg (Column.withName · desired.column.name) retypes
    rw [shape]
    exact ⟨spelling.type, DataType.resolveZoned_keyword spelling.type,
      changes_eq_nil rfl rfl rfl reaches.stored (reaches.text target) (reaches.number target)⟩

/-! ## Columns of a table -/

/-- A plan for a column that is there can be carried out if the desired name is free. It moves the
column and leaves the others alone. -/
theorem carryOut?_plan {columns : List Column} {name : String} (current desired : TypedColumn)
    (present : name ∈ columns.map Column.name)
    (free : desired.column.name = name ∨ desired.column.name ∉ columns.map Column.name) :
    Column.carryOut? columns name (plan name current desired).fragments =
      some (Column.edit columns name (moved current desired)) := by
  have altered := TableChange.foldlM_alterColumn (changes current desired) present
  have keeps := ColumnChange.name_applyAll (changes current desired)
  have names := Column.names_edit keeps columns name
  rw [(legible_plan name current desired).carryOut?_eq, plan, AlterPlan.ofChanges,
    List.foldlM_append, altered]
  by_cases same : desired.column.name = name
  · rw [if_pos same]
    refine congrArg some (Column.edit_congr (fun column named => ?_) columns)
    rw [moved, same, ← named, ← keeps column]
    rfl
  -- The texts before the last keep the names, so that the new name is still free for it.
  · have absent := free.resolve_left same
    rw [← names] at present absent
    rw [if_neg same]
    simp only [List.foldlM_cons, List.foldlM_nil, bind_pure, Option.bind_eq_bind, Option.bind_some]
    rw [TableChange.applyTo?_renameColumn present absent, Column.edit_edit keeps]
    rfl

end ColumnDiff

namespace AlterPlan

/-- What a plan for a column tells of its two shapes. -/
theorem changeColumn_eq_ok {table name : String} {live : List Column} {desired : Column}
    {plan : AlterPlan} :
    changeColumn table live name desired = .ok plan ↔
      ∃ current type wanted, Column.find? live name = some current ∧ current.type = .ok type ∧
        desired.type = .ok wanted ∧
        ColumnDiff.plan name ⟨current, type⟩ ⟨desired, wanted⟩ = plan := by
  rw [changeColumn]
  cases found : Column.find? live name with
  | none => simp
  | some current =>
    cases currentType : current.type with
    | error unknown => simp [bind, Except.bind, Column.typed_of_error currentType, currentType]
    | ok type =>
      cases desiredType : desired.type with
      | error unknown =>
        simp [bind, Except.bind, Column.typed_of_type currentType,
          Column.typed_of_error desiredType]
      | ok wanted =>
        simp [bind, Except.bind, pure, Except.pure, Column.typed_of_type currentType,
          Column.typed_of_type desiredType, currentType]

/-- No plan is made where no column has the name, or else the type of the live one is unknown, or
else that of the desired one. -/
theorem changeColumn_eq_error {table name : String} {live : List Column} {desired : Column}
    {failure : SchemaError} :
    changeColumn table live name desired = .error failure ↔
      (name ∉ live.map Column.name ∧ failure = .columnNotFound table name) ∨
        ∃ current, Column.find? live name = some current ∧
          (((¬ ∃ type, current.type = .ok type) ∧ failure = .unknownType ⟨current.typeName⟩) ∨
            (∃ type, current.type = .ok type) ∧ (¬ ∃ type, desired.type = .ok type) ∧
              failure = .unknownType ⟨desired.typeName⟩) := by
  rw [changeColumn, ← Column.find?_eq_none_iff]
  cases found : Column.find? live name with
  | none => simp [eq_comm]
  | some current =>
    simp only [reduceCtorEq, false_and, false_or, Option.some.injEq, exists_eq_left',
      ← Column.typed_eq_error_iff]
    cases currentType : current.type with
    | error unknown => simp [bind, Except.bind, Column.typed_of_error currentType]
    | ok type =>
      have typed := Column.typed_of_type currentType
      cases desiredType : desired.typed with
      | error refused => simp [bind, Except.bind, typed]
      | ok wanted => simp [bind, Except.bind, pure, Except.pure, typed]

/-- The texts of a plan that moves a column to a desired shape can be carried out, nothing runs
after them, and the column that results needs no further change. -/
theorem changeColumn_converges {table name : String} {live : List Column} {desired : Column}
    {plan : AlterPlan} (free : desired.name = name ∨ desired.name ∉ live.map Column.name)
    (planned : changeColumn table live name desired = .ok plan) :
    plan.followUps = [] ∧
      ∃ after, Column.carryOut? (live.map Column.held) name plan.fragments = some after ∧
        changeColumn table after desired.name desired = .ok .empty := by
  obtain ⟨current, type, wanted, found, typed, wantedType, rfl⟩ := changeColumn_eq_ok.1 planned
  have names : (live.map Column.held).map Column.name = live.map Column.name := by
    rw [List.map_map]
    exact List.map_congr_left fun column _ => Column.name_held column
  have heldFree : desired.name = name ∨ desired.name ∉ (live.map Column.held).map Column.name := by
    rw [names]
    exact free
  have present : name ∈ (live.map Column.held).map Column.name := by
    rw [names]
    exact Column.mem_of_find? found
  refine ⟨rfl, _,
    ColumnDiff.carryOut?_plan ⟨current, type⟩ ⟨desired, wanted⟩ present heldFree, ?_⟩
  obtain ⟨movedType, resolved, nothing⟩ :=
    ColumnDiff.exists_changes_eq_nil ⟨current, type⟩ ⟨desired, wanted⟩ typed
  refine changeColumn_eq_ok.2 ⟨_, movedType, wanted, ?_, resolved, wantedType, ?_⟩
  · refine (Column.find?_edit ?_ _ heldFree).trans ?_
    · intro _
      rfl
    · rw [Column.find?_map_held, found]
      rfl
  · rw [ColumnDiff.plan, nothing, if_pos rfl]
    rfl

/-- A text becomes a number with a default of its own and another name. -/
theorem changeColumn_converges_at_total :
    let live := [Column.declare "id" "number", (Column.declare "total" "varchar").withLimit 10]
    let desired := ((Column.declare "sum" "number").withPrecision 12).notNull.withDefault
      (.expression "0")
    let fragments :=
      ["alter column \"total\" set data type number(12,0)",
        "alter column \"total\" set default 0",
        "alter column \"total\" set not null",
        "rename column \"total\" to \"sum\""]
    ∃ plan, changeColumn "orders" live "total" desired = .ok plan ∧ plan.fragments = fragments ∧
      ∃ after, Column.carryOut? (live.map Column.held) "total" fragments = some after ∧
        changeColumn "orders" after "sum" desired = .ok .empty := by
  intro live desired fragments
  let plan := ofChanges
    [.alterColumn "total" (.setType ⟨.number, some 12, some 0, none, none⟩),
      .alterColumn "total" (.setDefault "0"), .alterColumn "total" .setNotNull,
      .renameColumn "total" "sum"]
  have planned : changeColumn "orders" live "total" desired = .ok plan :=
    changeColumn_eq_ok.2 ⟨_, .varchar, .number, rfl, DataType.resolveZoned_keyword .varchar,
      DataType.resolveZoned_keyword .number, by decide⟩
  have texts : plan.fragments = fragments := by decide +kernel
  have free : desired.name = "total" ∨ desired.name ∉ live.map Column.name := .inr (by decide)
  obtain ⟨-, converges⟩ := changeColumn_converges free planned
  rw [texts] at converges
  exact ⟨plan, planned, texts, converges⟩

end AlterPlan

end WarehouseSchema
