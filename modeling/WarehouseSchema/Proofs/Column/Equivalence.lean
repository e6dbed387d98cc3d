import WarehouseSchema.Alter.Builder
import WarehouseSchema.Proofs.Alter.Convergence
import WarehouseSchema.Proofs.Table.Declaration

/-!
# Columns that are written alike

A column holds more than is ever written of it: the way its type was spelled, the parameters that
its type does not take, and how often and in which words it asks to be part of the primary key.

## What is proved

`equivalent_columns_are_written_alike`: where two columns differ in such things only, one can stand
for the other in every statement, be it the live column or the desired one, and whatever is refused
with the one is refused with the other for the same reason.

`Column.Agree` lists what the two have to agree on, with the parameters that a type uses given type
by type in `Column.SameParameters`; `Column.Equivalent` asks that both be of that type.
-/

set_option autoImplicit false

namespace WarehouseSchema

/-- The seed and the increment, where both are set. -/
def Identity.counters? : Identity → Option (Int64 × Int64)
  | ⟨some seed, some increment⟩ => some (seed, increment)
  | _ => none

/-- The clause of an identity tells whether it counts from a seed in steps, and nothing else. -/
theorem IdentityClause.ofIdentity_eq (identity : Identity) :
    ofIdentity identity =
      identity.counters?.elim .bare fun counters => .counting counters.1 counters.2 := by
  obtain ⟨_ | seed, _ | increment⟩ := identity <;> rfl

namespace Column

/-- Two columns agree on the parameters that a type uses. -/
def SameParameters (first second : Column) : DataType → Prop
  | .number =>
    first.precision = second.precision ∧ first.scale = second.scale ∧
      first.identity.map Identity.counters? = second.identity.map Identity.counters?
  | .time | .timestamp | .timestampNtz | .timestampLtz | .timestampTz =>
    first.precision = second.precision
  | .varchar => first.limit = second.limit ∧ first.collation = second.collation
  | .binary | .varbinary => first.limit = second.limit
  | .float | .boolean | .date | .variant | .object | .array | .geography | .geometry => True

/-- Two columns of a type agree on all that is written of a column of that type. -/
structure Agree (type : DataType) (first second : Column) : Prop where
  name : first.name = second.name
  nullable : first.nullable = second.nullable
  default : first.default = second.default
  comment : first.comment = second.comment
  /-- The properties are the same but for those that ask for the primary key. -/
  properties : first.properties.filter (fun property => !Keyword.isPrimaryKey property) =
    second.properties.filter fun property => !Keyword.isPrimaryKey property
  primaryKey : first.isPrimaryKey = second.isPrimaryKey
  parameters : SameParameters first second type

/-- Two columns have the same type, however it is spelled, and agree on what is written of it. -/
def Equivalent (first second : Column) : Prop :=
  ∃ type, first.type = .ok type ∧ second.type = .ok type ∧ Agree type first second

/-! ## What is written of a column -/

namespace Agree

variable {type : DataType} {first second : Column}

/-- A column agrees with itself for any type. -/
theorem refl (type : DataType) (column : Column) : Agree type column column where
  name := rfl
  nullable := rfl
  default := rfl
  comment := rfl
  properties := rfl
  primaryKey := rfl
  parameters := by cases type <;> simp [SameParameters]

/-- Columns that agree have the same type spelled with the same parameters. -/
theorem spellingOf (agree : Agree type first second) :
    first.spellingOf type = second.spellingOf type := by
  have parameters := agree.parameters
  cases type with
  | number =>
    obtain ⟨precision, scale, -⟩ := parameters
    simp only [Column.spellingOf, precision, scale]
  | varchar =>
    obtain ⟨limit, collation⟩ := parameters
    simp only [Column.spellingOf, limit, collation]
  | binary | varbinary =>
    have limit : first.limit = second.limit := parameters
    simp only [Column.spellingOf, limit]
  | time | timestamp | timestampNtz | timestampLtz | timestampTz =>
    have precision : first.precision = second.precision := parameters
    simp only [Column.spellingOf, precision]
  | float | boolean | date | variant | object | array | geography | geometry => rfl

/-- They count by themselves in the same way, where their type counts at all. -/
theorem identityClause (agree : Agree type first second) :
    (if type.supportsIdentity then first.identity.map .ofIdentity else none) =
      if type.supportsIdentity then second.identity.map IdentityClause.ofIdentity else none := by
  have clause (column : Column) : column.identity.map IdentityClause.ofIdentity =
      (column.identity.map Identity.counters?).map fun counters? =>
        counters?.elim .bare fun counters => .counting counters.1 counters.2 := by
    rw [Option.map_map]
    exact congrArg (column.identity.map ·) (funext IdentityClause.ofIdentity_eq)
  have parameters := agree.parameters
  cases type with
  | number => rw [clause, clause, parameters.2.2]
  | _ => rfl

/-- They have the same text for their default. -/
theorem defaultText (agree : Agree type first second) :
    first.defaultText type = second.defaultText type := by
  rw [Column.defaultText, Column.defaultText, agree.default]

/-- They are defined by the same text. -/
theorem definitionOf (agree : Agree type first second) :
    first.definitionOf type = second.definitionOf type := by
  unfold Column.definitionOf
  rw [agree.spellingOf, agree.identityClause, agree.nullable, agree.defaultText,
    agree.properties, agree.comment]

end Agree

namespace Equivalent

variable {first second : Column}

/-- Equivalent columns have the same type with the same parameters, or the same unknown type. -/
theorem spelling (alike : first.Equivalent second) : first.spelling = second.spelling := by
  obtain ⟨type, known, knownToo, agree⟩ := alike
  unfold Column.spelling dataType
  rw [known, knownToo]
  exact congrArg Except.ok agree.spellingOf

/-- Equivalent columns have the same definition, or fail alike. -/
theorem definition (alike : first.Equivalent second) : first.definition = second.definition := by
  obtain ⟨type, known, knownToo, agree⟩ := alike
  unfold Column.definition dataType
  rw [known, knownToo]
  exact congrArg Except.ok agree.definitionOf

/-- Equivalent columns have one name. -/
theorem name (alike : first.Equivalent second) : first.name = second.name := by
  obtain ⟨type, -, -, agree⟩ := alike
  exact agree.name

end Equivalent

end Column

/-! ## What is compared of two columns -/

namespace ColumnDiff

open Column

variable {type wantedType : DataType} {first second desired wanted : Column}

/-- The section on defaults looks at the texts of the two defaults alone. -/
theorem defaultChange_congr (live : Agree type first second)
    (shape : Agree wantedType desired wanted) :
    defaultChange ⟨first, type⟩ ⟨desired, wantedType⟩ =
      defaultChange ⟨second, type⟩ ⟨wanted, wantedType⟩ := by
  unfold defaultChange TypedColumn.defaultText
  rw [live.defaultText, shape.defaultText]

/-- The section on nulls does not tell columns apart that agree. -/
theorem nullChange_congr (live : Agree type first second)
    (shape : Agree wantedType desired wanted) :
    nullChange ⟨first, type⟩ ⟨desired, wantedType⟩ =
      nullChange ⟨second, type⟩ ⟨wanted, wantedType⟩ := by
  simp only [nullChange, live.nullable, shape.nullable]

/-- Neither does the section on comments. -/
theorem commentChange_congr (live : Agree type first second)
    (shape : Agree wantedType desired wanted) :
    commentChange ⟨first, type⟩ ⟨desired, wantedType⟩ =
      commentChange ⟨second, type⟩ ⟨wanted, wantedType⟩ := by
  simp only [commentChange, live.comment, shape.comment]

/-- The section on types looks at the types and spells the desired one. -/
theorem typeChange_congr (shape : Agree wantedType desired wanted) :
    typeChange ⟨first, type⟩ ⟨desired, wantedType⟩ =
      typeChange ⟨second, type⟩ ⟨wanted, wantedType⟩ := by
  simp only [typeChange, TypedColumn.spelling, shape.spellingOf]

/-- Lengths and collations are compared only where both columns use them. -/
theorem textChange_congr (live : Agree type first second)
    (shape : Agree wantedType desired wanted) :
    textChange ⟨first, type⟩ ⟨desired, wantedType⟩ =
      textChange ⟨second, type⟩ ⟨wanted, wantedType⟩ := by
  by_cases varchar : type = .varchar ∧ wantedType = .varchar
  · obtain ⟨rfl, rfl⟩ := varchar
    simp only [textChange, TypedColumn.spelling, shape.spellingOf, live.parameters.1,
      live.parameters.2, shape.parameters.1, shape.parameters.2]
  · have apart (column other : Column) : textChange ⟨column, type⟩ ⟨other, wantedType⟩ = [] :=
      if_neg fun both => varchar ⟨both.1, both.2.1⟩
    rw [apart, apart]

/-- Precisions and scales are compared only where both columns use them. -/
theorem numberChange_congr (live : Agree type first second)
    (shape : Agree wantedType desired wanted) :
    numberChange ⟨first, type⟩ ⟨desired, wantedType⟩ =
      numberChange ⟨second, type⟩ ⟨wanted, wantedType⟩ := by
  by_cases number : type = .number ∧ wantedType = .number
  · obtain ⟨rfl, rfl⟩ := number
    simp only [numberChange, live.parameters.1, live.parameters.2.1, shape.parameters.1,
      shape.parameters.2.1]
  · have apart (column other : Column) : numberChange ⟨column, type⟩ ⟨other, wantedType⟩ = [] :=
      if_neg number
    rw [apart, apart]

/-- Columns that agree lead to the same plan, on either side of it. -/
theorem plan_congr (live : Agree type first second) (shape : Agree wantedType desired wanted)
    (name : String) :
    plan name ⟨first, type⟩ ⟨desired, wantedType⟩ =
      plan name ⟨second, type⟩ ⟨wanted, wantedType⟩ := by
  have same : changes ⟨first, type⟩ ⟨desired, wantedType⟩ =
      changes ⟨second, type⟩ ⟨wanted, wantedType⟩ := by
    unfold changes
    rw [typeChange_congr shape, defaultChange_congr live shape, nullChange_congr live shape,
      commentChange_congr live shape, textChange_congr live shape, numberChange_congr live shape]
  unfold plan
  rw [same, shape.name]

end ColumnDiff

/-! ## A column in place of another -/

namespace Column

/-- Where a column of the same name takes its place, a column is found no more and no less. -/
theorem find?_replaced {first second : Column} (named : first.name = second.name)
    (before after : List Column) (name : String) :
    find? (before ++ first :: after) name = find? (before ++ second :: after) name ∨
      find? (before ++ first :: after) name = some first ∧
        find? (before ++ second :: after) name = some second := by
  unfold find?
  rw [List.find?_append, List.find?_append]
  cases before.find? (·.name == name) with
  | some column => exact .inl rfl
  | none =>
    rw [List.find?_cons, List.find?_cons, ← named]
    cases first.name == name with
    | true => exact .inr ⟨rfl, rfl⟩
    | false => exact .inl rfl

end Column

namespace AlterPlan

variable {first second : Column}

/-- Equivalent columns may be desired for each other. -/
theorem changeColumn_congr_desired (alike : first.Equivalent second) (table : String)
    (live : List Column) (name : String) :
    changeColumn table live name first = changeColumn table live name second := by
  obtain ⟨wantedType, known, knownToo, shape⟩ := alike
  unfold changeColumn
  rw [Column.typed_of_type known, Column.typed_of_type knownToo]
  cases Column.find? live name with
  | none => rfl
  | some current =>
    dsimp only
    cases current.typed with
    | error e => rfl
    | ok typed => exact congrArg Except.ok (ColumnDiff.plan_congr (.refl _ _) shape name)

/-- Equivalent columns may stand in the table for each other. -/
theorem changeColumn_congr_live (alike : first.Equivalent second) (table : String)
    (before after : List Column) (name : String) (desired : Column) :
    changeColumn table (before ++ first :: after) name desired =
      changeColumn table (before ++ second :: after) name desired := by
  obtain ⟨type, known, knownToo, agree⟩ := alike
  unfold changeColumn
  rcases Column.find?_replaced agree.name before after name with same | ⟨found, foundToo⟩
  · rw [same]
  · rw [found, foundToo]
    dsimp only
    rw [Column.typed_of_type known, Column.typed_of_type knownToo]
    cases desired.typed with
    | error e => rfl
    | ok typed => exact congrArg Except.ok (ColumnDiff.plan_congr agree (.refl _ _) name)

end AlterPlan

namespace Table

variable {first second : Column}

/-- The table with other columns in place of its own. -/
def withColumns (table : Table) (columns : List Column) : Table := { table with columns }

/-- Whether a table gets a column that numbers its rows is told by the names of its columns. -/
theorem idColumn?_withColumns (table : Table) {columns others : List Column}
    (names : columns.map (·.name) = others.map (·.name)) :
    (table.withColumns columns).idColumn? = (table.withColumns others).idColumn? := by
  have declared (name : String) : ((table.withColumns columns).column? name).isSome =
      ((table.withColumns others).column? name).isSome := by
    rw [Bool.eq_iff_iff, column?_isSome, column?_isSome]
    show (∃ column ∈ columns, column.name = name) ↔ ∃ column ∈ others, column.name = name
    rw [← List.mem_map, names, List.mem_map]
  unfold idColumn?
  simp only [declared]
  rfl

/-- The key of a table looks at the names and the properties of its columns. -/
theorem flaggedColumns_replaced (table : Table) (named : first.name = second.name)
    (flagged : first.isPrimaryKey = second.isPrimaryKey) (before after : List Column) :
    (table.withColumns (before ++ first :: after)).flaggedColumns =
      (table.withColumns (before ++ second :: after)).flaggedColumns := by
  simp only [flaggedColumns, withColumns, List.filter_append, List.filter_cons, List.map_append,
    flagged]
  cases second.isPrimaryKey <;> simp [named]

/-- Equivalent columns are declared alike. -/
theorem declaration_congr (alike : first.Equivalent second) :
    declaration first = declaration second := by
  unfold declaration
  rw [alike.definition, alike.name]

/-- A table is created alike with one of two equivalent columns or with the other. -/
theorem creation_congr (alike : first.Equivalent second) (table : Table)
    (before after : List Column) :
    (table.withColumns (before ++ first :: after)).creation =
      (table.withColumns (before ++ second :: after)).creation := by
  have declared := declaration_congr alike
  obtain ⟨type, -, -, agree⟩ := alike
  have flagged := table.flaggedColumns_replaced agree.name agree.primaryKey before after
  have numbering : (table.withColumns (before ++ first :: after)).idColumn? =
      (table.withColumns (before ++ second :: after)).idColumn? :=
    table.idColumn?_withColumns (by simp [agree.name])
  have columns : (table.withColumns (before ++ first :: after)).effectiveColumns.mapM declaration =
      (table.withColumns (before ++ second :: after)).effectiveColumns.mapM declaration := by
    unfold effectiveColumns withColumns
    unfold withColumns at numbering
    simp only [numbering, List.mapM_append, List.mapM_cons, declared]
  have key : (table.withColumns (before ++ first :: after)).primaryKeyClause =
      (table.withColumns (before ++ second :: after)).primaryKeyClause := by
    unfold primaryKeyClause
    rw [flagged, numbering]
    rfl
  unfold creation
  rw [columns, key]
  rfl

end Table

/-- Columns of one type that agree on what is written of it are written alike, alone and among
others, and are compared alike on either side of a change. -/
theorem equivalent_columns_are_written_alike {first second : Column}
    (alike : first.Equivalent second) :
    first.spelling = second.spelling ∧
      first.definition = second.definition ∧
      AlterPlan.addColumn first = AlterPlan.addColumn second ∧
      (∀ (table : Table) (before after : List Column),
        (table.withColumns (before ++ first :: after)).creation =
          (table.withColumns (before ++ second :: after)).creation) ∧
      (∀ (table : String) (live : List Column) (name : String),
        AlterPlan.changeColumn table live name first =
          AlterPlan.changeColumn table live name second) ∧
      ∀ (table : String) (before after : List Column) (name : String) (desired : Column),
        AlterPlan.changeColumn table (before ++ first :: after) name desired =
          AlterPlan.changeColumn table (before ++ second :: after) name desired := by
  have added : AlterPlan.addColumn first = AlterPlan.addColumn second := by
    unfold AlterPlan.addColumn
    rw [alike.definition, alike.name]
  exact ⟨alike.spelling, alike.definition, added, Table.creation_congr alike,
    AlterPlan.changeColumn_congr_desired alike, AlterPlan.changeColumn_congr_live alike⟩

/-- A key that is asked for twice and numbers the rows, under two names for its type and with
parameters that no number takes. -/
theorem equivalent_columns_are_written_alike_at_counting_key :
    let stray : Column := { (Column.declare "id" " BigInt ") with
      limit := some 8
      collation := some "de"
      zoned := true
      identity := some ⟨some 1, none⟩
      properties := ["PRIMARY KEY", "unique", "primary_key"] }
    let plain : Column := { (Column.declare "id" "number") with
      identity := some ⟨none, none⟩
      properties := ["unique", "primary_key"] }
    stray.Equivalent plain ∧ stray.definition = plain.definition := by
  intro stray plain
  have strayType : stray.type = .ok .number := DataType.eq_ok_of_toOption (by decide +kernel)
  have plainType : plain.type = .ok .number := DataType.resolveZoned_keyword .number
  have alike : stray.Equivalent plain := by
    refine ⟨.number, strayType, plainType, rfl, rfl, rfl, rfl, ?_, ?_, rfl, rfl, rfl⟩
    · decide
    · decide
  exact ⟨alike, (equivalent_columns_are_written_alike alike).2.1⟩

end WarehouseSchema
