import WarehouseSchema.Alter.Builder
import WarehouseSchema.Proofs.Table.Declaration

/-!
# Creating a table and adding to it

What a table is created with could also be added to a table that exists: each column, the primary
key and each unique constraint, one after another. `Table.additions` plans that, as a caller would
ask for it.

## What is proved

`creation_agrees_with_additions`: the statement that creates a table lists, between its parentheses,
what the changes that add its pieces say after the word for adding. Where the keys are no obstacle,
a table cannot be created exactly where some column cannot be added, and for the same reason.

A primary key that an index names is left out: there is no change that adds a named one. A key of
no columns is left out, too, since choosing no columns plans nothing.
-/

set_option autoImplicit false

namespace WarehouseSchema

namespace Table

variable {table : Table}

/-- The unique indexes of a table, of which that of the options has no name. -/
def uniqueIndexes (table : Table) : List Index :=
  (if table.options.unique.isEmpty then [] else [.unnamed .unique table.options.unique]) ++
    table.indexes.filter fun index => index.kind = .unique

/-- The plans that add to a table what this one is created with, piece by piece: the columns, the
primary key where there is one, and the unique indexes. -/
def additions (table : Table) : Except SchemaError (List AlterPlan) := do
  let columns ← table.effectiveColumns.mapM AlterPlan.addColumn
  let key ← table.primaryKeyClause
  let uniques ← table.uniqueIndexes.mapM AlterPlan.addIndex
  pure (columns ++
    key.toList.map (fun clause => AlterPlan.changePrimaryKey false (.many clause.columns)) ++
      uniques)

/-- The unique constraints of a table are those of its unique indexes, the one of its options
first. -/
theorem uniqueClauses_eq (table : Table) :
    table.uniqueClauses = table.uniqueIndexes.map (.ofIndex .unique) := by
  rw [uniqueClauses, uniqueIndexes, List.map_append]
  congr 1
  split <;> rfl

/-- A unique index is of that kind. -/
theorem kind_of_mem_uniqueIndexes {index : Index} (mem : index ∈ table.uniqueIndexes) :
    index.kind = .unique := by
  rcases List.mem_append.1 mem with chosen | indexed
  · split at chosen
    · cases chosen
    · cases List.mem_singleton.1 chosen
      rfl
  · simpa using (List.mem_filter.1 indexed).2

end Table

/-! ## The changes that add what a statement declares -/

namespace Creation

/-- The change that adds a column. -/
def columnAddition (column : String × ColumnDefinition) : TableChange :=
  .addColumn column.1 column.2

/-- The changes that add what the statement declares. -/
def changes (creation : Creation) : List TableChange :=
  creation.columns.map columnAddition ++ creation.primaryKey.toList.map .addKey ++
    creation.uniques.map .addKey

/-- A column is added by the text that declares it. -/
theorem render_columnAddition (column : String × ColumnDefinition) :
    (columnAddition column).render = "add " ++ columnText column := by
  show "add " ++ Quoted.identifier column.1 ++ " " ++ column.2.render =
    "add " ++ (Quoted.identifier column.1 ++ " " ++ column.2.render)
  simp only [String.append_assoc]

/-- The text that creates a table, with its comment if it has one. -/
theorem render_eq (creation : Creation) :
    creation.render = "create table " ++ Quoted.identifier creation.table ++ " (" ++
      ", ".intercalate creation.parts ++ ")" ++
        creation.comment.elim "" fun text => " comment = " ++ Quoted.literal text := by
  unfold render
  cases creation.comment <;> rfl

/-- A change that adds a part says what the statement says of it. -/
theorem map_render_changes (creation : Creation) :
    creation.changes.map TableChange.render = creation.parts.map ("add " ++ ·) := by
  have columns : (creation.columns.map columnAddition).map TableChange.render =
      (creation.columns.map columnText).map ("add " ++ ·) := by
    rw [List.map_map, List.map_map]
    exact List.map_congr_left fun column _ => render_columnAddition column
  have keys (clauses : List KeyClause) : (clauses.map TableChange.addKey).map TableChange.render =
      (clauses.map KeyClause.render).map ("add " ++ ·) := by
    rw [List.map_map, List.map_map]
    rfl
  rw [changes, parts, List.map_append, List.map_append, List.map_append, List.map_append, columns,
    keys, keys]

end Creation

namespace AlterPlan

/-- A column is added or refused as it is declared or refused. -/
theorem addColumn_eq (column : Column) :
    addColumn column = (Table.declaration column).map fun declared =>
      ofChange (Creation.columnAddition declared) := by
  unfold addColumn Table.declaration
  cases column.definition <;> rfl

/-- Columns are added in the order in which they are declared. -/
theorem mapM_addColumn (columns : List Column) :
    columns.mapM addColumn = (columns.mapM Table.declaration).map (List.map fun declared =>
      ofChange (Creation.columnAddition declared)) := by
  rw [funext addColumn_eq, Traversal.mapM_map]

/-- A unique index can always be added. -/
theorem addIndex_of_unique {index : Index} (unique : index.kind = .unique) :
    addIndex index = .ok (ofChange (.addKey (.ofIndex .unique index))) := by
  rw [addIndex, unique]

/-- An unnamed key of some columns is what a change of the primary key adds. -/
theorem changePrimaryKey_many {clause : KeyClause} (primary : clause.kind = .primary)
    (unnamed : clause.constraint = none) (named : clause.columns ≠ []) :
    changePrimaryKey false (.many clause.columns) = ofChange (.addKey clause) := by
  obtain ⟨constraint, kind, columns⟩ := clause
  obtain ⟨column, rest, rfl⟩ := List.exists_cons_of_ne_nil named
  cases primary
  cases unnamed
  rfl

end AlterPlan

namespace Table

variable {table : Table}

/-- The unique indexes of a table can all be added, each by its clause. -/
theorem mapM_addIndex_uniqueIndexes (table : Table) :
    table.uniqueIndexes.mapM AlterPlan.addIndex =
      .ok (table.uniqueClauses.map fun clause => .ofChange (.addKey clause)) := by
  rw [Traversal.mapM_eq_ok, uniqueClauses_eq, List.map_map, List.forall₂_map_right_iff,
    List.forall₂_same]
  exact fun index mem => AlterPlan.addIndex_of_unique (kind_of_mem_uniqueIndexes mem)

/-- The pieces of a table that can be created can be added, each by the change that says what the
statement says. -/
theorem Declares.additions_eq {creation : Creation} (declares : table.Declares creation)
    (unnamed : ∀ index ∈ table.keyIndexes, index.name = none)
    (named : ∀ clause ∈ creation.primaryKey, clause.columns ≠ []) :
    table.additions = .ok (creation.changes.map AlterPlan.ofChange) := by
  have columns : table.effectiveColumns.mapM declaration = .ok creation.columns :=
    Traversal.mapM_eq_ok.2 declares.columns
  -- A change of the key never names it, so it adds the clause because no index gives it a name.
  have key : creation.primaryKey.toList.map (fun clause =>
        AlterPlan.changePrimaryKey false (.many clause.columns)) =
      creation.primaryKey.toList.map fun clause => .ofChange (.addKey clause) := by
    apply List.map_congr_left
    intro clause mem
    have stands := Option.mem_toList.1 mem
    have explicit := (declares.source stands).2
    apply AlterPlan.changePrimaryKey_many
    · exact congrArg KeyClause.kind explicit
    · rw [explicit]
      exact List.findSome?_eq_none_iff.2 unnamed
    · exact named clause stands
  simp only [additions, AlterPlan.mapM_addColumn, columns, declares.primaryKey,
    mapM_addIndex_uniqueIndexes, bind, Except.bind, pure, Except.pure, Except.map, key,
    ← declares.uniques, Creation.changes, List.map_append, List.map_map]
  rfl

/-- Columns cannot be added for the reason for which they cannot be declared. -/
theorem mapM_addColumn_eq_error {columns : List Column} {e : SchemaError} :
    columns.mapM AlterPlan.addColumn = .error e ↔ columns.mapM declaration = .error e := by
  rw [AlterPlan.mapM_addColumn]
  cases columns.mapM declaration with
  | error cause => simp only [Except.map, Except.error.injEq]
  | ok declared => simp only [Except.map, reduceCtorEq]

/-- What a table is created with is what the changes that add its pieces would add, and a table with
an impossible column cannot be created for the reason that the column cannot be added. -/
theorem creation_agrees_with_additions (table : Table) :
    (∀ creation, table.creation = .ok creation →
        (∀ index ∈ table.keyIndexes, index.name = none) →
        (∀ clause ∈ creation.primaryKey, clause.columns ≠ []) →
          ∃ (changes : List TableChange) (texts : List String),
            table.additions = .ok (changes.map AlterPlan.ofChange) ∧
              changes.map TableChange.render = texts.map ("add " ++ ·) ∧
              creation.render = "create table " ++ Quoted.identifier table.name ++ " (" ++
                ", ".intercalate texts ++ ")" ++
                  table.options.comment.elim "" fun text =>
                    " comment = " ++ Quoted.literal text) ∧
      (table.unsupportedKind? = none → table.KeysAgree → ∀ e, table.creation = .error e ↔
        ∃ before column after, table.columns = before ++ column :: after ∧
          (∀ other ∈ before, ∃ plan, AlterPlan.addColumn other = .ok plan) ∧
          AlterPlan.addColumn column = .error e) := by
  constructor
  · intro creation created unnamed named
    have declares := creation_eq_ok.1 created
    refine ⟨creation.changes, creation.parts, declares.additions_eq unnamed named,
      creation.map_render_changes, ?_⟩
    have text := creation.render_eq
    rw [declares.name, declares.comment] at text
    exact text
  · intro supported agree e
    rw [creation_eq_error supported agree, ← mapM_addColumn_eq_error, Traversal.mapM_eq_error]

/-- A table with a flagged column and a unique index, and the same with a column of unknown type. -/
theorem creation_agrees_with_additions_at_flagged_column :
    let code := (Column.declare "code" "varchar").withProperty "primary key"
    let table : Table := ⟨"orders", ⟨.disabled, [], [], none⟩, [code], [.unnamed .unique ["code"]]⟩
    let price := Column.declare "price" "money"
    (∃ (changes : List TableChange) (texts : List String),
      table.additions = .ok (changes.map AlterPlan.ofChange) ∧
        changes.map TableChange.render = texts.map ("add " ++ ·) ∧
        "create table \"orders\" (" ++
            "\"code\" varchar null, primary key (\"code\"), unique (\"code\")" ++ ")" =
          "create table " ++ Quoted.identifier "orders" ++ " (" ++ ", ".intercalate texts ++ ")") ∧
      (table.withColumn price).creation = .error (.unknownType ⟨"money"⟩) := by
  intro code table price
  have codeType : code.type = .ok .varchar := DataType.resolveZoned_keyword .varchar
  have priceType : price.type = .error ⟨"money"⟩ :=
    DataType.resolveZoned_of_toOption (by decide +kernel) false
  let creation : Creation := ⟨"orders", [(code.name, code.definitionOf .varchar)],
    some ⟨none, .primary, ["code"]⟩, [⟨none, .unique, ["code"]⟩], none⟩
  have effective : table.effectiveColumns = [code] := by rfl
  have key : table.primaryKeyClause = .ok creation.primaryKey := by rfl
  have declared : List.Forall₂ (fun column declared => declaration column = .ok declared)
      table.effectiveColumns creation.columns := by
    rw [effective]
    exact .cons (declaration_of_type codeType) .nil
  have created : table.creation = .ok creation :=
    creation_eq_ok.2 ⟨rfl, rfl, declared, key, rfl, rfl⟩
  constructor
  · obtain ⟨changes, texts, added, spelled, text⟩ :=
      (creation_agrees_with_additions table).1 creation created (by decide) (by decide)
    have rendered : creation.render = "create table \"orders\" (" ++
        "\"code\" varchar null, primary key (\"code\"), unique (\"code\")" ++ ")" := by
      decide +kernel
    rw [rendered] at text
    exact ⟨changes, texts, added, spelled, text.trans String.append_empty⟩
  · have added : AlterPlan.addColumn code =
        .ok (.ofChange (.addColumn code.name (code.definitionOf .varchar))) := by
      rw [AlterPlan.addColumn_eq, declaration_of_type codeType]
      rfl
    have refused : AlterPlan.addColumn price = .error (.unknownType ⟨"money"⟩) := by
      rw [AlterPlan.addColumn, Column.definition, Column.dataType, priceType]
      rfl
    have supported : (table.withColumn price).unsupportedKind? = none := by rfl
    have agree : (table.withColumn price).KeysAgree := by
      intro columns mem
      cases mem
    exact ((creation_agrees_with_additions _).2 supported agree _).2
      ⟨[code], price, [], rfl, List.forall_mem_singleton.2 ⟨_, added⟩, refused⟩

end Table

end WarehouseSchema
