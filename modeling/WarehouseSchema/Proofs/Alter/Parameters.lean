import WarehouseSchema.Proofs.Alter.Order

/-!
# Parameters of a type in a change of a column

A desired column asks for the parameters that it sets and that its type is spelled with. A plan
looks at the parameters of texts and numbers only. Each has a section of its own, and both leave
alone what is not desired; but where the section on texts spells a type, it spells the desired one
alone.

## What is proved

`unchanged_column_carries_parameters`: a column that needs no change has every length, collation,
precision and scale that is asked for, if a text or a number is desired. Of any other type it has
whatever it had: other parameters lead to no change either, so that a precision of a time or a
length of a binary may be asked for in vain.

`respelled_text_keeps_iff`: a column of text of which the length or the collation changes is spelled
with those that are desired, so it keeps the other one exactly where there was none to keep. The
statement that spells it is the only one that spells a type, and it is read as just that spelling.
-/

set_option autoImplicit false

namespace WarehouseSchema

/-- A type that is kept as another one is that one, the timestamps aside. -/
theorem DataType.eq_of_stored_eq {type target : DataType} (same : type.stored = target)
    (apart : target ≠ .timestampNtz) : type = target := by
  cases type with
  | timestamp => exact absurd same.symm apart
  | _ => exact same

namespace Column

/-- The parameters that a column of a type asks for: those that its type is spelled with, less a
scale that is spelled because of the precision alone. -/
def requested (column : Column) (type : DataType) : TypeSpelling :=
  { column.spellingOf type with
    scale := (column.spellingOf type).scale.bind fun _ => column.scale }

/-- A column has every parameter that is asked for. -/
structure Carries (column : Column) (wanted : TypeSpelling) : Prop where
  precision : ∀ n, wanted.precision = some n → column.precision = some n
  scale : ∀ n, wanted.scale = some n → column.scale = some n
  limit : ∀ n, wanted.limit = some n → column.limit = some n
  collation : ∀ text, wanted.collation = some text → column.collation = some text

end Column

namespace ColumnDiff

variable {current desired : TypedColumn}

/-! ## What a silent section tells -/

/-- Nothing is changed exactly where every section is silent. -/
theorem changes_eq_nil_iff : changes current desired = [] ↔
    typeChange current desired = [] ∧ defaultChange current desired = [] ∧
      nullChange current desired = [] ∧ commentChange current desired = [] ∧
        textChange current desired = [] ∧ numberChange current desired = [] := by
  simp only [changes, List.append_eq_nil_iff, and_assoc]

/-- A plan is empty exactly where nothing is changed and the name stays. -/
theorem plan_eq_empty_iff {name : String} :
    plan name current desired = .empty ↔
      changes current desired = [] ∧ desired.column.name = name := by
  have shape : plan name current desired = .empty ↔
      (changes current desired).map (TableChange.alterColumn name) = [] ∧
        (if desired.column.name = name then []
          else [TableChange.renameColumn name desired.column.name]) = [] := by
    rw [plan, AlterPlan.ofChanges, AlterPlan.empty, AlterPlan.mk.injEq, List.append_eq_nil_iff,
      and_iff_left rfl]
  rw [shape, List.map_eq_nil_iff]
  by_cases same : desired.column.name = name
  · rw [if_pos same]
    simp only [same]
  · rw [if_neg same]
    simp only [same, reduceCtorEq]

/-- Types about which the first section is silent are kept as one. -/
theorem stored_eq_of_typeChange (silent : typeChange current desired = []) :
    current.type.stored = desired.type.stored := by
  unfold typeChange at silent
  split at silent
  · assumption
  · cases silent

/-- A parameter that does not differ is the live one, if it is desired at all. -/
theorem differs_eq_false_iff {α : Type} [DecidableEq α] {wanted held : Option α} :
    differs wanted held = false ↔ ∀ value, wanted = some value → held = some value := by
  cases wanted with
  | none =>
    constructor
    · intro _ value absent
      cases absent
    · intro _
      rfl
  | some value =>
    rw [differs, Option.isSome_some, Bool.true_and, bne_eq_false_iff_eq]
    constructor
    · rintro rfl _ ⟨⟩
      rfl
    · intro held
      exact (held value rfl).symm

/-- Between texts the section is silent where neither the length nor the collation differs. -/
theorem textChange_eq_nil_iff (held : current.type = .varchar) (wanted : desired.type = .varchar) :
    textChange current desired = [] ↔
      differs desired.column.limit current.column.limit = false ∧
        differs desired.column.collation current.column.collation = false := by
  rw [textChange, ← Bool.or_eq_false_iff]
  simp only [held, wanted, true_and]
  cases differs desired.column.limit current.column.limit ||
      differs desired.column.collation current.column.collation with
  | true => simp only [if_pos, reduceCtorEq]
  | false => simp only [Bool.false_eq_true, if_neg, not_false_eq_true]

/-- Between numbers the section is silent where the live column has the precision and the scale that
would be spelled. -/
theorem numberChange_eq_nil_iff {precision : UInt32} (held : current.type = .number)
    (wanted : desired.type = .number) (asked : desired.column.precision = some precision) :
    numberChange current desired = [] ↔
      some precision = current.column.precision ∧
        some ((desired.column.scale.or current.column.scale).getD 0) = current.column.scale := by
  rw [numberChange, if_pos ⟨held, wanted⟩, asked]
  dsimp only
  split
  · rename_i alike
    simp only [alike, and_self]
  · rename_i apart
    simp only [apart, reduceCtorEq]

/-! ## Parameters that are asked for -/

/-- A text that needs no change has the length and the collation that are asked for. -/
theorem carries_of_varchar (held : current.type = .varchar) (wanted : desired.type = .varchar)
    (silent : textChange current desired = []) :
    current.column.Carries (desired.column.requested .varchar) := by
  obtain ⟨limit, collation⟩ := (textChange_eq_nil_iff held wanted).1 silent
  refine ⟨?_, ?_, differs_eq_false_iff.1 limit, differs_eq_false_iff.1 collation⟩
  · intro _ absent
    cases absent
  · intro _ absent
    cases absent

/-- A number that needs no change has the precision that is asked for, and the scale with it. -/
theorem carries_of_number (held : current.type = .number) (wanted : desired.type = .number)
    (silent : numberChange current desired = []) :
    current.column.Carries (desired.column.requested .number) := by
  have asked : desired.column.requested .number =
      ⟨.number, desired.column.precision,
        desired.column.precision.bind fun _ => desired.column.scale, none, none⟩ := by
    rw [Column.requested, Column.spellingOf]
    cases desired.column.precision <;> rfl
  rw [asked]
  refine ⟨?_, ?_, ?_, ?_⟩
  · intro precision some
    exact ((numberChange_eq_nil_iff held wanted some).1 silent).1.symm
  · intro scale some
    obtain ⟨precision, somePrecision, someScale⟩ := Option.bind_eq_some_iff.1 some
    have same := ((numberChange_eq_nil_iff held wanted somePrecision).1 silent).2
    rw [someScale] at same
    exact same.symm
  · intro _ absent
    cases absent
  · intro _ absent
    cases absent

/-- Between columns of any other type the parameters of the desired one lead to no change. -/
theorem changes_of_other_parameters {wanted : Column} {type : DataType} (number : type ≠ .number)
    (varchar : type ≠ .varchar) (stored : current.type.stored = type.stored)
    (precision scale limit : Option UInt32) (collation : Option String) :
    changes current ⟨{ wanted with precision, scale, limit, collation }, type⟩ =
      changes current ⟨wanted, type⟩ := by
  have noText (column : Column) : textChange current ⟨column, type⟩ = [] :=
    if_neg fun alike => varchar alike.2.1
  have noNumber (column : Column) : numberChange current ⟨column, type⟩ = [] :=
    if_neg fun alike => number alike.2
  have noType (column : Column) : typeChange current ⟨column, type⟩ = [] := if_pos stored
  rw [changes, changes, noText, noNumber, noType, noText, noNumber, noType]
  rfl

/-! ## Parameters that are not asked for -/

/-- Between texts a type is spelled as it is desired, whatever the live one is. -/
theorem spelling_of_varchar {spelling : TypeSpelling} (held : current.type = .varchar)
    (wanted : desired.type = .varchar) (spelled : .setType spelling ∈ changes current desired) :
    spelling = ⟨.varchar, none, none, desired.column.limit, desired.column.collation⟩ := by
  rw [setType_mem_changes_iff, mem_typeChange_iff, mem_textChange_iff, mem_numberChange_iff]
    at spelled
  obtain ⟨apart, -⟩ | ⟨-, same⟩ | ⟨⟨number, -⟩, -⟩ := spelled
  · rw [held, wanted] at apart
    exact absurd rfl apart
  · cases same
    rw [TypedColumn.spelling, wanted]
    rfl
  · cases held.symm.trans number

/-- What is desired is what is to be kept where there is nothing to keep. -/
theorem eq_or_iff {α : Type} {wanted held : Option α} :
    wanted = wanted.or held ↔ (wanted = none → held = none) := by
  cases wanted with
  | none => simp [eq_comm]
  | some value => simp

end ColumnDiff

namespace AlterPlan

open ColumnDiff

/-- A column that needs no change has every parameter that is asked for, if a number or a text is
desired. Other types have parameters that no plan looks at: whichever are desired, no change is
needed. -/
theorem unchanged_column_carries_parameters {table name : String} {live : List Column}
    {desired : Column} (unchanged : changeColumn table live name desired = .ok .empty) :
    ∃ current type, Column.find? live name = some current ∧ desired.type = .ok type ∧
      (type = .number ∨ type = .varchar → current.Carries (desired.requested type)) ∧
      (type ≠ .number → type ≠ .varchar → ∀ precision scale limit collation,
        changeColumn table live name { desired with precision, scale, limit, collation } =
          .ok .empty) := by
  obtain ⟨current, type, wanted, found, typed, wantedType, planned⟩ :=
    changeColumn_eq_ok.1 unchanged
  obtain ⟨silent, named⟩ := plan_eq_empty_iff.1 planned
  obtain ⟨noType, _, _, _, noText, noNumber⟩ := changes_eq_nil_iff.1 silent
  have stored : type.stored = wanted.stored := stored_eq_of_typeChange noType
  refine ⟨current, wanted, found, wantedType, ?_, ?_⟩
  · rintro (rfl | rfl)
    · exact carries_of_number (DataType.eq_of_stored_eq stored (by decide)) rfl noNumber
    · exact carries_of_varchar (DataType.eq_of_stored_eq stored (by decide)) rfl noText
  · intro number varchar precision scale limit collation
    refine changeColumn_eq_ok.2 ⟨current, type, wanted, found, typed, wantedType, ?_⟩
    refine plan_eq_empty_iff.2 ⟨?_, named⟩
    rw [changes_of_other_parameters number varchar stored]
    exact silent

/-- A number keeps its precision where that is asked for, and whatever scale it has. -/
theorem unchanged_column_carries_parameters_at_total :
    let current := ((Column.declare "total" "number").withPrecision 12).withScale 2
    let desired := (Column.declare "total" "number").withPrecision 12
    changeColumn "orders" [current] "total" desired = .ok .empty ∧
      current.Carries (desired.requested .number) ∧
      (desired.requested .number).precision = some 12 := by
  intro current desired
  have unchanged : changeColumn "orders" [current] "total" desired = .ok .empty :=
    changeColumn_eq_ok.2 ⟨current, .number, .number, rfl, DataType.resolveZoned_keyword .number,
      DataType.resolveZoned_keyword .number, by decide⟩
  obtain ⟨held, type, found, typed, carries, -⟩ := unchanged_column_carries_parameters unchanged
  cases found
  cases typed.symm.trans (DataType.resolveZoned_keyword .number)
  exact ⟨unchanged, carries (.inl rfl), rfl⟩

/-- A precision of a timestamp and a length of a binary that are asked for and never given. -/
theorem parameters_asked_for_in_vain :
    let moment := (Column.declare "at" "timestamp_ntz").withPrecision 3
    let code := (Column.declare "code" "binary").withLimit 8
    let finer := (Column.declare "at" "timestamp_ntz").withPrecision 6
    let longer := (Column.declare "code" "binary").withLimit 16
    (changeColumn "events" [moment, code] "at" finer = .ok .empty ∧
        finer.type = .ok .timestampNtz ∧ ¬ moment.Carries (finer.requested .timestampNtz)) ∧
      changeColumn "events" [moment, code] "code" longer = .ok .empty ∧
        longer.type = .ok .binary ∧ ¬ code.Carries (longer.requested .binary) := by
  intro moment code finer longer
  have timestamp : finer.type = .ok .timestampNtz := DataType.resolveZoned_keyword .timestampNtz
  have binary : longer.type = .ok .binary := DataType.resolveZoned_keyword .binary
  refine ⟨⟨?_, timestamp, ?_⟩, ?_, binary, ?_⟩
  · exact changeColumn_eq_ok.2 ⟨moment, _, _, rfl, timestamp, timestamp, by decide⟩
  · intro carries
    exact absurd (carries.precision 6 rfl) (by decide)
  · exact changeColumn_eq_ok.2 ⟨code, _, _, rfl, binary, binary, by decide⟩
  · intro carries
    exact absurd (carries.limit 16 rfl) (by decide)

/-- A text of which the type is spelled again is spelled as it is desired, in the one fragment of
the plan that spells a type. It keeps a length or a collation that is not desired exactly where the
live column has none. -/
theorem respelled_text_keeps_iff {table name : String} {live : List Column}
    {current desired : Column} {plan : AlterPlan} {spelling : TypeSpelling}
    (found : Column.find? live name = some current) (held : current.type = .ok .varchar)
    (wanted : desired.type = .ok .varchar)
    (planned : changeColumn table live name desired = .ok plan)
    (spelled : .alterColumn name (.setType spelling) ∈ plan.changes) :
    (∀ fragment, fragment ∈ plan.fragments ∧ Quoted.readsAsRetyping name fragment = true ↔
        fragment = Quoted.retyping name spelling.render) ∧
      TypeSpelling.read? spelling.render = some spelling ∧
      spelling = ⟨.varchar, none, none, desired.limit, desired.collation⟩ ∧
      ((spelling.limit = desired.limit.or current.limit ∧
          spelling.collation = desired.collation.or current.collation) ↔
        (desired.limit = none → current.limit = none) ∧
          (desired.collation = none → current.collation = none)) := by
  obtain ⟨_, _, _, same, heldType, wantedType, rfl⟩ := changeColumn_eq_ok.1 planned
  cases found.symm.trans same
  cases held.symm.trans heldType
  cases wanted.symm.trans wantedType
  have among := alterColumn_mem_plan_iff.1 spelled
  have asDesired := spelling_of_varchar rfl rfl among
  refine ⟨fun fragment => ?_, TypeSpelling.read?_render (fits_of_mem_changes among), asDesired, ?_⟩
  · rw [mem_fragments_and_readsAsRetyping_iff]
    constructor
    · rintro ⟨other, mem, rfl⟩
      rw [spelling_of_varchar rfl rfl mem, asDesired]
    · rintro rfl
      exact ⟨spelling, among, rfl⟩
  · rw [asDesired]
    exact and_congr eq_or_iff eq_or_iff

/-- A text that is given both a length and a collation keeps what is asked of it. -/
theorem respelled_text_keeps_iff_at_code :
    let current := (Column.declare "code" "varchar").withLimit 10
    let desired := ((Column.declare "code" "varchar").withLimit 20).withCollation "en-ci"
    let spelling : TypeSpelling := ⟨.varchar, none, none, some 20, some "en-ci"⟩
    let fragment := "alter column \"code\" set data type varchar(20) collate 'en-ci'"
    let plan : AlterPlan := .ofChange (.alterColumn "code" (.setType spelling))
    changeColumn "events" [current] "code" desired = .ok plan ∧
      plan.fragments = [fragment] ∧ Quoted.readsAsRetyping "code" fragment = true ∧
      TypeSpelling.read? "varchar(20) collate 'en-ci'" = some spelling ∧
      spelling.limit = desired.limit.or current.limit ∧
        spelling.collation = desired.collation.or current.collation := by
  intro current desired spelling fragment plan
  have varchar (column : Column) (declared : column.typeName = "varchar")
      (bare : column.zoned = false) : column.type = .ok .varchar := by
    rw [Column.type, declared, bare]
    exact DataType.resolveZoned_keyword .varchar
  have held := varchar current rfl rfl
  have wanted := varchar desired rfl rfl
  have planned : changeColumn "events" [current] "code" desired = .ok plan :=
    changeColumn_eq_ok.2 ⟨current, _, _, rfl, held, wanted, by decide⟩
  obtain ⟨retypes, reads, -, keeps⟩ :=
    respelled_text_keeps_iff rfl held wanted planned List.mem_cons_self
  have type : spelling.render = "varchar(20) collate 'en-ci'" := by decide +kernel
  have text : Quoted.retyping "code" spelling.render = fragment := by decide +kernel
  have kept := keeps.2 ⟨nofun, nofun⟩
  rw [type] at reads
  exact ⟨planned, congrArg ([·]) text, ((retypes fragment).2 text.symm).2, reads, kept⟩

/-- A text that is given a collation loses its length. -/
theorem respelled_text_loses_its_length :
    let current := (Column.declare "code" "varchar").withLimit 10
    let desired := (Column.declare "code" "varchar").withCollation "en-ci"
    let spelling : TypeSpelling := ⟨.varchar, none, none, none, some "en-ci"⟩
    let plan : AlterPlan := .ofChange (.alterColumn "code" (.setType spelling))
    changeColumn "events" [current] "code" desired = .ok plan ∧
      plan.statements "events" =
        ["alter table \"events\" alter column \"code\" set data type varchar collate 'en-ci'"] ∧
      desired.limit = none ∧ current.limit = some 10 ∧
        spelling.limit ≠ desired.limit.or current.limit := by
  intro current desired spelling plan
  have varchar : DataType.resolveZoned "varchar" false = .ok .varchar :=
    DataType.resolveZoned_keyword .varchar
  exact ⟨changeColumn_eq_ok.2 ⟨current, _, _, rfl, varchar, varchar, by decide⟩,
    by decide +kernel, rfl, rfl, by decide⟩

end AlterPlan

end WarehouseSchema
