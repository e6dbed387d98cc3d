import WarehouseSchema.Alter.Builder
import WarehouseSchema.Proofs.Alter.Reading
import WarehouseSchema.Proofs.Table.Obstacles
import WarehouseSchema.Proofs.Table.PrimaryKey

/-!
# A column with a property that asks for the key

A column may have a property that makes it part of the primary key of its table. The property is not
written where the column is defined, because the table has a clause for its key. The statement that
creates a table composes that clause. A plan that adds a column to a table has none.

## What is proved

`added_column_keeps_key_iff`: every column of a known type can be added, and the plan declares the
key that the column asks for exactly where it asks for none. The plan is that of the column without
the properties that ask for a key. A table that has its key from this column alone is created with
it, and a plan for another key declares it, too, so it is only the added column that loses its key.
Each of these is said of the statement's text as well.

`AlterPlan.DeclaresKeyOn` finds a key in a definition of the column, in whichever spelling, or in a
clause of its own. It looks at the properties and not for words in the text, because a default is
text that is written as it is and may hold any words.
-/

set_option autoImplicit false

namespace WarehouseSchema

/-- The text of a primary key without a name of its own. -/
def Quoted.primaryKey (columns : List String) : String :=
  "primary key (" ++ identifiers columns ++ ")"

/-- The text of a clause that names only the columns of a primary key. -/
theorem KeyClause.render_unnamed_primary (columns : List String) :
    (KeyClause.unnamed .primary columns).render = Quoted.primaryKey columns :=
  congrArg (· ++ Quoted.identifiers columns ++ ")")
    (by decide : "" ++ KeyKind.primary.words ++ " (" = "primary key (")

/-- A plan that declares a primary key on the column of a name. -/
inductive AlterPlan.DeclaresKeyOn (plan : AlterPlan) (name : String) : Prop where
  | inDefinition {definition : ColumnDefinition} {property : String}
      (added : .addColumn name definition ∈ plan.changes)
      (written : property ∈ definition.properties)
      (asks : Keyword.isPrimaryKey property = true)
  | byClause {clause : KeyClause} (added : .addKey clause ∈ plan.changes)
      (primary : clause.kind = .primary) (named : name ∈ clause.columns)

/-- The key of a table comes from a property of this column alone: no option and no index names it,
and no other column asks for it. -/
structure Table.KeyedOnlyBy (table : Table) (column : Column) : Prop where
  unchosen : table.options.primaryKey = []
  noIndex : table.keyIndexes = []
  flagged : table.columns.filter Column.isPrimaryKey = [column]

/-! ## The key of a table that is created -/

namespace Table.KeyedOnlyBy

variable {table : Table} {column : Column}

/-- A table that has its key from one column has a clause for this column. -/
theorem primaryKeyClause_eq (keyed : table.KeyedOnlyBy column) :
    table.primaryKeyClause = .ok (some (.unnamed .primary [column.name])) := by
  have flagged : table.flaggedColumns = [column.name] := by
    rw [flaggedColumns, keyed.flagged]
    rfl
  rw [primaryKeyClause, explicitKeys_eq_nil.2 ⟨keyed.unchosen, keyed.noIndex⟩]
  dsimp only
  rw [flagged]
  rfl

/-- A table that has its key from one column can be created, and the text of its key is among the
declarations. -/
theorem exists_creation (keyed : table.KeyedOnlyBy column) (supported : table.KindsSupported)
    (known : table.TypesKnown) : ∃ creation, table.creation = .ok creation ∧
      creation.primaryKey = some (.unnamed .primary [column.name]) ∧
        Quoted.primaryKey [column.name] ∈ creation.parts := by
  cases result : table.creation with
  | ok creation =>
    have key := (creation_eq_ok.1 result).primaryKey
    rw [keyed.primaryKeyClause_eq] at key
    have clause : creation.primaryKey = some (.unnamed .primary [column.name]) :=
      (Except.ok.inj key).symm
    refine ⟨creation, rfl, clause, ?_⟩
    rw [Creation.parts, clause, ← KeyClause.render_unnamed_primary]
    exact List.mem_append_left _ (List.mem_append_right _ (List.mem_singleton_self _))
  | error e =>
    have agree := (primaryKeyClause_eq_ok keyed.primaryKeyClause_eq).1
    exact absurd ⟨supported, known, agree⟩ (creation_eq_error_iff_obstacle.1 result).not_clear

end Table.KeyedOnlyBy

/-! ## The key of a column that is added -/

namespace AlterPlan

variable {column : Column} {type : DataType}

/-- A column of a known type is added by one change. -/
theorem addColumn_of_type (known : column.type = .ok type) :
    addColumn column = .ok (.ofChange (.addColumn column.name (column.definitionOf type))) := by
  rw [addColumn, Column.definition_of_type known]
  rfl

/-- No property that asks for the key is written with a column, and nothing else is added. -/
theorem not_declaresKeyOn_addColumn (column : Column) (type : DataType) (name : String) :
    ¬ (ofChange (.addColumn name (column.definitionOf type))).DeclaresKeyOn name := by
  intro declares
  cases declares with
  | inDefinition added written asks =>
    cases List.mem_singleton.1 added
    -- The definition keeps only properties that do not ask for the key.
    have kept := (List.mem_filter.1 written).2
    rw [asks] at kept
    cases kept
  | byClause added primary named => cases List.mem_singleton.1 added

/-- A plan for a new key adds it on the columns that are chosen, whatever has gone before. -/
theorem addKey_mem_changePrimaryKey (before : AlterPlan) (present : Bool) {choice : KeyChoice}
    {name : String} (chosen : name ∈ choice.columns) :
    .addKey (.unnamed .primary choice.columns) ∈
      (before ++ changePrimaryKey present choice).changes := by
  have notEmpty : choice.isEmpty = false := by
    rw [KeyChoice.isEmpty, List.isEmpty_eq_false_iff]
    exact List.ne_nil_of_mem chosen
  rw [changes_append, changePrimaryKey, notEmpty]
  exact List.mem_append_right _ (List.mem_append_right _ (List.mem_singleton_self _))

/-- A column of a known type can be added, and the plan declares the key that the column asks
for exactly where it asks for none. A table that is created with this column alone to ask has
the key. -/
theorem added_column_keeps_key_iff (known : column.type = .ok type) :
    ∃ plan, addColumn column = .ok plan ∧
      plan.fragments =
        ["add " ++ Quoted.identifier column.name ++ " " ++ (column.definitionOf type).render] ∧
      plan.followUps = [] ∧
      ((column.isPrimaryKey = true → plan.DeclaresKeyOn column.name) ↔
        column.isPrimaryKey = false) ∧
      addColumn column.withoutKeyProperties = .ok plan ∧
      (∀ table : Table, table.KeyedOnlyBy column → table.KindsSupported → table.TypesKnown →
        ∃ creation, table.creation = .ok creation ∧
          creation.primaryKey = some (.unnamed .primary [column.name]) ∧
            Quoted.primaryKey [column.name] ∈ creation.parts) ∧
      ∀ present choice, column.name ∈ choice.columns →
        (plan ++ changePrimaryKey present choice).DeclaresKeyOn column.name ∧
          "add " ++ Quoted.primaryKey choice.columns ∈
            (plan ++ changePrimaryKey present choice).fragments := by
  have added := addColumn_of_type known
  refine ⟨_, added, rfl, rfl, ⟨?_, ?_⟩, ?_, fun table => Table.KeyedOnlyBy.exists_creation, ?_⟩
  · intro keeps
    rw [← Bool.not_eq_true]
    exact fun asks => not_declaresKeyOn_addColumn column type column.name (keeps asks)
  · intro unflagged asks
    rw [unflagged] at asks
    cases asks
  · rw [← added, addColumn, column.definition_withoutKeyProperties]
    rfl
  · intro present choice chosen
    have rekeyed := addKey_mem_changePrimaryKey
      (ofChange (.addColumn column.name (column.definitionOf type))) present chosen
    refine ⟨.byClause rekeyed rfl chosen, ?_⟩
    rw [← KeyClause.render_unnamed_primary]
    exact List.mem_map_of_mem rekeyed

/-- The property is spelled in another way and stands behind another one, and the table also numbers
its rows. -/
theorem added_column_keeps_key_iff_at_code :
    let code := ((Column.declare "code" "varchar").withProperty "unique").withProperty " Primary_Key"
    let table : Table := ⟨"orders", ⟨.implicit, [], [], none⟩,
      [code, Column.declare "total" "number"], [.unnamed .unique ["total"]]⟩
    code.type = .ok .varchar ∧
      ∃ plan, addColumn code = .ok plan ∧ plan.fragments = ["add \"code\" varchar null unique"] ∧
        ¬ plan.DeclaresKeyOn "code" ∧
        (∃ creation, table.creation = .ok creation ∧
          creation.primaryKey = some (.unnamed .primary ["code"]) ∧
            "primary key (\"code\")" ∈ creation.parts) ∧
        (plan ++ changePrimaryKey true (.single "code")).DeclaresKeyOn "code" ∧
          "add primary key (\"code\")" ∈
            (plan ++ changePrimaryKey true (.single "code")).fragments := by
  intro code table
  have known : code.type = .ok .varchar := DataType.resolveZoned_keyword .varchar
  have total : (Column.declare "total" "number").type = .ok .number :=
    DataType.resolveZoned_keyword .number
  have keyed : table.KeyedOnlyBy code := ⟨rfl, rfl, rfl⟩
  have supported : table.KindsSupported := by
    intro index mem
    cases List.mem_singleton.1 mem
    exact nofun
  have typesKnown : table.TypesKnown := by
    intro column mem
    rcases List.mem_pair.1 mem with rfl | rfl
    · exact ⟨_, known⟩
    · exact ⟨_, total⟩
  obtain ⟨plan, added, texts, -, keeps, -, created, rekeyed⟩ := added_column_keeps_key_iff known
  have written : ["add " ++ Quoted.identifier code.name ++ " " ++
      (code.definitionOf .varchar).render] = ["add \"code\" varchar null unique"] := by
    decide +kernel
  refine ⟨known, plan, added, texts.trans written, ?_, created table keyed supported typesKnown,
    rekeyed true (.single "code") (List.mem_singleton_self _)⟩
  exact fun declares => absurd (keeps.1 fun _ => declares) (by decide)

/-- The key of a column is declared where the table is created and not where the column is added. -/
theorem added_column_loses_its_key :
    let code := (Column.declare "code" "varchar").withProperty "primary key"
    let table : Table := ⟨"orders", ⟨.disabled, [], [], none⟩, [code], []⟩
    code.type = .ok .varchar ∧ code.isPrimaryKey = true ∧
      (∃ plan, addColumn code = .ok plan ∧
        plan.statements "orders" = ["alter table \"orders\" add \"code\" varchar null"] ∧
          ¬ plan.DeclaresKeyOn "code") ∧
      ∃ creation, table.creation = .ok creation ∧
        creation.render =
          "create table \"orders\" (\"code\" varchar null, primary key (\"code\"))" := by
  intro code table
  have known : code.type = .ok .varchar := DataType.resolveZoned_keyword .varchar
  let creation : Creation := ⟨"orders", [(code.name, code.definitionOf .varchar)],
    some (.unnamed .primary ["code"]), [], none⟩
  have created : table.creation = .ok creation := Table.creation_eq_ok.2
    ⟨rfl, rfl, .cons (Table.declaration_of_type known) .nil, rfl, rfl, rfl⟩
  refine ⟨known, by decide, ⟨_, addColumn_of_type known, by decide +kernel, ?_⟩,
    creation, created, by decide +kernel⟩
  exact not_declaresKeyOn_addColumn code .varchar "code"

end AlterPlan

end WarehouseSchema
