import WarehouseSchema.Proofs.DataType.Spelling
import WarehouseSchema.Proofs.Traversal
import WarehouseSchema.Table.Creation

/-!
# What a statement that creates a table declares

A statement that creates a table succeeds where no index is of a kind that cannot be a key, every
column has a known type, and the lists of key columns agree. Then it declares one definition for
each column the table is created with, in their order, and the keys of the table.

`creation_eq_ok` and `creation_eq_error_iff` say what such a statement declares and why a table has
none. They are all that the theory of these statements opens of `Table.creation`.
-/

set_option autoImplicit false

namespace WarehouseSchema

/-- The name and the number of digits that are asked for a column that numbers the rows. -/
def IdColumn.request : IdColumn → Option (String × Option UInt32)
  | .implicit => some ("id", none)
  | .named name limit => some (name, limit)
  | .disabled => none

namespace Table

variable {table : Table}

/-! ## The column that numbers the rows -/

/-- A column is found exactly where one has the name. -/
theorem column?_isSome {name : String} :
    (table.column? name).isSome = true ↔ ∃ column ∈ table.columns, column.name = name := by
  simp only [column?, List.find?_isSome, beq_iff_eq]

/-- A table gets the requested numbering column unless it declares one of that name. -/
theorem idColumn?_eq_some {column : Column} :
    table.idColumn? = some column ↔
      ∃ name limit, table.options.id.request = some (name, limit) ∧
        (∀ declared ∈ table.columns, declared.name ≠ name) ∧ column = numbering name limit := by
  have unlessDeclared (name : String) (limit : Option UInt32) :
      (if (table.column? name).isSome then none else some (numbering name limit)) = some column ↔
        (∀ declared ∈ table.columns, declared.name ≠ name) ∧ column = numbering name limit := by
    have absent : ¬ (table.column? name).isSome = true ↔
        ∀ declared ∈ table.columns, declared.name ≠ name := by
      rw [column?_isSome]
      push Not
      rfl
    rw [← absent]
    by_cases declared : (table.column? name).isSome = true
    · simp [declared]
    · simp [declared, eq_comm]
  unfold idColumn? IdColumn.request
  cases table.options.id with
  | implicit => simpa using unlessDeclared "id" none
  | disabled => simp
  | named name limit => simpa using unlessDeclared name limit

/-- The column that numbers the rows is a number. -/
theorem type_of_idColumn? {column : Column} (numbers : table.idColumn? = some column) :
    column.type = .ok .number := by
  obtain ⟨name, limit, -, -, rfl⟩ := idColumn?_eq_some.1 numbers
  exact DataType.resolveZoned_keyword .number

/-! ## The lists of key columns -/

/-- No key is named where neither the options nor an index do. -/
theorem explicitKeys_eq_nil :
    table.explicitKeys = [] ↔ table.options.primaryKey = [] ∧ table.keyIndexes = [] := by
  unfold explicitKeys
  rw [List.append_eq_nil_iff, List.map_eq_nil_iff]
  cases table.options.primaryKey with
  | nil => simp
  | cons column rest => simp

/-- A key that is named comes from the options, where they name columns, or from an index. -/
theorem mem_explicitKeys {columns : List String} :
    columns ∈ table.explicitKeys ↔
      (table.options.primaryKey ≠ [] ∧ columns = table.options.primaryKey) ∨
        ∃ index ∈ table.keyIndexes, index.columns = columns := by
  unfold explicitKeys
  rw [List.mem_append, List.mem_map]
  cases table.options.primaryKey with
  | nil => simp
  | cons column rest => simp

/-- The lists of key columns that the options and the indexes name are all the same. -/
def KeysAgree (table : Table) : Prop :=
  ∀ columns ∈ table.explicitKeys, ∀ others ∈ table.explicitKeys, columns = others

/-- Lists of key columns agree where all of them are the first one. -/
theorem keysAgree_iff_of_cons {first : List String} {others : List (List String)}
    (named : table.explicitKeys = first :: others) :
    table.KeysAgree ↔ others.find? (· != first) = none := by
  unfold KeysAgree
  rw [named, List.find?_eq_none]
  constructor
  · intro agree columns mem differs
    have same := agree columns (List.mem_cons_of_mem _ mem) first List.mem_cons_self
    rw [same] at differs
    simp at differs
  · intro none
    have first_of (columns : List String) (mem : columns ∈ first :: others) : columns = first := by
      rcases List.mem_cons.1 mem with rfl | mem
      · rfl
      · simpa using none columns mem
    intro columns mem others' mem'
    rw [first_of columns mem, first_of others' mem']

/-- Where the columns of the primary key come from: the first source that names any. -/
inductive KeySource (table : Table) : List String → Prop where
  | option (chosen : table.options.primaryKey ≠ []) : KeySource table table.options.primaryKey
  | index {index : Index} (unchosen : table.options.primaryKey = [])
      (mem : index ∈ table.keyIndexes) : KeySource table index.columns
  | flagged (unchosen : table.options.primaryKey = []) (noIndex : table.keyIndexes = [])
      (flagged : table.flaggedColumns ≠ []) : KeySource table table.flaggedColumns
  | numbering {column : Column} (unchosen : table.options.primaryKey = [])
      (noIndex : table.keyIndexes = []) (unflagged : table.flaggedColumns = [])
      (numbers : table.idColumn? = some column) : KeySource table [column.name]

/-- The first of the lists that the options and the indexes name is a source. -/
theorem keySource_of_cons {first : List String} {others : List (List String)}
    (named : table.explicitKeys = first :: others) : KeySource table first := by
  unfold explicitKeys at named
  cases chosen : table.options.primaryKey with
  | nil =>
    rw [chosen] at named
    obtain ⟨index, rest, indexes, columns, -⟩ := List.map_eq_cons_iff.1 named
    subst columns
    exact .index chosen (indexes ▸ List.mem_cons_self)
  | cons column rest =>
    rw [chosen] at named
    cases named
    rw [← chosen]
    exact .option fun empty => by
      rw [chosen] at empty
      cases empty

/-- A table the lists of which agree has a primary key exactly where some source names its columns,
and the key has the name of the first index that has one. -/
theorem primaryKeyClause_eq_ok {key : Option KeyClause}
    (agreed : table.primaryKeyClause = .ok key) :
    table.KeysAgree ∧
      ((∃ columns, KeySource table columns ∧ key = some (table.explicitClause columns)) ∨
        (key = none ∧ table.options.primaryKey = [] ∧ table.keyIndexes = [] ∧
          table.flaggedColumns = [] ∧ table.idColumn? = none)) := by
  unfold primaryKeyClause at agreed
  cases named : table.explicitKeys with
  | cons first others =>
    rw [named] at agreed
    dsimp only at agreed
    cases conflict : others.find? (· != first) with
    | some other =>
      rw [conflict] at agreed
      cases agreed
    | none =>
      rw [conflict] at agreed
      cases agreed
      exact ⟨(keysAgree_iff_of_cons named).2 conflict,
        .inl ⟨first, keySource_of_cons named, rfl⟩⟩
  | nil =>
    have agree : table.KeysAgree := by
      intro columns mem
      rw [named] at mem
      cases mem
    obtain ⟨unchosen, noIndex⟩ := explicitKeys_eq_nil.1 named
    -- No index is a primary key here, so that the clause of any source has no name.
    have unnamed (columns : List String) :
        KeyClause.unnamed .primary columns = table.explicitClause columns := by
      rw [explicitClause, noIndex]
      rfl
    rw [named] at agreed
    dsimp only at agreed
    refine ⟨agree, ?_⟩
    cases flagged : table.flaggedColumns with
    | cons column rest =>
      rw [flagged] at agreed
      cases agreed
      refine .inl ⟨column :: rest, ?_, congrArg some (unnamed _)⟩
      rw [← flagged]
      exact .flagged unchosen noIndex (by rw [flagged]; exact List.cons_ne_nil _ _)
    | nil =>
      rw [flagged] at agreed
      cases numbers : table.idColumn? with
      | none =>
        rw [numbers] at agreed
        cases agreed
        exact .inr ⟨rfl, unchosen, noIndex, rfl, rfl⟩
      | some column =>
        rw [numbers] at agreed
        cases agreed
        exact .inl ⟨[column.name], .numbering unchosen noIndex flagged numbers,
          congrArg some (unnamed _)⟩

/-- Sources that agree make a clause, or need none. -/
theorem exists_primaryKeyClause (agree : table.KeysAgree) :
    ∃ key, table.primaryKeyClause = .ok key := by
  unfold primaryKeyClause
  cases named : table.explicitKeys with
  | cons first others =>
    rw [keysAgree_iff_of_cons named] at agree
    dsimp only
    rw [agree]
    exact ⟨_, rfl⟩
  | nil =>
    dsimp only
    split
    · exact ⟨_, rfl⟩
    · exact ⟨_, rfl⟩

/-- A table has no key to declare only because a list of key columns is not the first one. -/
theorem primaryKeyClause_eq_error {e : SchemaError} :
    table.primaryKeyClause = .error e ↔ ∃ first between other after,
      table.explicitKeys = first :: (between ++ other :: after) ∧
        (∀ columns ∈ between, columns = first) ∧ other ≠ first ∧
          e = .invalidArgument (.conflictingKeys table.name first other) := by
  unfold primaryKeyClause
  cases named : table.explicitKeys with
  | nil =>
    dsimp only
    split <;> simp
  | cons first others =>
    dsimp only
    cases conflict : others.find? (· != first) with
    | none =>
      constructor
      · intro refused
        cases refused
      · rintro ⟨_, between, other, after, ⟨⟩, -, differs, -⟩
        have same := List.find?_eq_none.1 conflict other
          (List.mem_append_right _ List.mem_cons_self)
        exact absurd (bne_iff_ne.2 differs) same
    | some other =>
      obtain ⟨differs, between, after, split, same⟩ := List.find?_eq_some_iff_append.1 conflict
      constructor
      · intro refused
        cases refused
        exact ⟨first, between, other, after, by rw [split], by simpa using same,
          by simpa using differs, rfl⟩
      -- Two splits at a list that differs are one split: the search stops at the first such list.
      · rintro ⟨_, before, found, rest, ⟨⟩, alike, apart, rfl⟩
        have first_found : (before ++ found :: rest).find? (· != first) = some found :=
          List.find?_eq_some_iff_append.2
            ⟨bne_iff_ne.2 apart, before, rest, rfl, by simpa using alike⟩
        cases conflict.symm.trans first_found
        rfl

/-- A unique constraint is that of the options, where they name columns for one, or that of an
index. -/
theorem mem_uniqueClauses {clause : KeyClause} :
    clause ∈ table.uniqueClauses ↔
      (table.options.unique ≠ [] ∧ clause = .unnamed .unique table.options.unique) ∨
        ∃ index ∈ table.indexes, index.kind = .unique ∧ clause = .ofIndex .unique index := by
  have indexed : clause ∈ (table.indexes.filter fun index => index.kind = .unique).map
        (.ofIndex .unique) ↔
      ∃ index ∈ table.indexes, index.kind = .unique ∧ clause = .ofIndex .unique index := by
    simp only [List.mem_map, List.mem_filter, decide_eq_true_eq, and_assoc, @eq_comm _ clause]
  rw [uniqueClauses, List.mem_append, indexed]
  cases table.options.unique with
  | nil => simp
  | cons column rest => simp

/-! ## The statement as a whole -/

/-- A column of a known type is declared under its name. -/
theorem declaration_of_type {column : Column} {type : DataType} (known : column.type = .ok type) :
    declaration column = .ok (column.name, column.definitionOf type) := by
  rw [declaration, Column.definition_of_type known]
  rfl

/-- A declaration tells the column's name and its type. -/
theorem eq_of_declaration {column : Column} {declared : String × ColumnDefinition}
    (declares : declaration column = .ok declared) :
    ∃ type, column.dataType = .ok type ∧ declared = (column.name, column.definitionOf type) := by
  unfold declaration Column.definition at declares
  cases known : column.dataType with
  | error e =>
    rw [known] at declares
    cases declares
  | ok type =>
    rw [known] at declares
    cases declares
    exact ⟨type, rfl, rfl⟩

/-- What a statement that creates the table declares. -/
structure Declares (table : Table) (creation : Creation) : Prop where
  supported : table.unsupportedKind? = none
  name : creation.table = table.name
  columns : List.Forall₂ (fun column declared => declaration column = .ok declared)
    table.effectiveColumns creation.columns
  primaryKey : table.primaryKeyClause = .ok creation.primaryKey
  uniques : creation.uniques = table.uniqueClauses
  comment : creation.comment = table.options.comment

/-- A table is created by one statement, the one that declares it. -/
theorem creation_eq_ok {creation : Creation} :
    table.creation = .ok creation ↔ table.Declares creation := by
  constructor
  · intro created
    unfold Table.creation at created
    cases supported : table.unsupportedKind? with
    | some kind =>
      rw [supported] at created
      cases created
    | none =>
      rw [supported] at created
      cases columns : table.effectiveColumns.mapM declaration with
      | error e =>
        simp only [columns, bind, Except.bind] at created
        cases created
      | ok declared =>
        cases primaryKey : table.primaryKeyClause with
        | error e =>
          simp only [columns, primaryKey, bind, Except.bind] at created
          cases created
        | ok key =>
          simp only [columns, primaryKey, bind, Except.bind, pure, Except.pure] at created
          cases created
          exact ⟨supported, rfl, Traversal.mapM_eq_ok.1 columns, primaryKey, rfl, rfl⟩
  · intro declares
    obtain ⟨name, columns, primaryKey, uniques, comment⟩ := creation
    obtain ⟨supported, rfl, columns, primaryKey, rfl, rfl⟩ := declares
    have declared := Traversal.mapM_eq_ok.2 columns
    simp only [Table.creation, supported, declared, primaryKey, bind, Except.bind, pure,
      Except.pure]

/-- The primary key is that of some source, under the name of the first index that has one. -/
theorem Declares.source {creation : Creation} (declares : table.Declares creation)
    {clause : KeyClause} (mem : clause ∈ creation.primaryKey) :
    KeySource table clause.columns ∧ clause = table.explicitClause clause.columns := by
  rcases (primaryKeyClause_eq_ok declares.primaryKey).2 with ⟨columns, source, key⟩ | ⟨none, -⟩
  · rw [key] at mem
    cases mem
    exact ⟨source, rfl⟩
  · rw [none] at mem
    cases mem

/-- The columns of the statement are those of the table, in their order. -/
theorem Declares.names {creation : Creation} (declares : table.Declares creation) :
    creation.columns.map Prod.fst = table.effectiveColumns.map (·.name) := by
  obtain ⟨-, -, declared, -⟩ := declares
  generalize table.effectiveColumns = columns at declared ⊢
  generalize creation.columns = definitions at declared ⊢
  induction declared with
  | nil => rfl
  | cons head _ ih =>
    obtain ⟨type, -, rfl⟩ := eq_of_declaration head
    rw [List.map_cons, List.map_cons, ih]

/-- The column that numbers the rows can always be declared, so that only a declared column can be
an obstacle. -/
theorem mapM_declaration_effectiveColumns {e : SchemaError} :
    table.effectiveColumns.mapM declaration = .error e ↔
      table.columns.mapM declaration = .error e := by
  rw [effectiveColumns]
  cases numbers : table.idColumn? with
  | none => exact Iff.rfl
  | some column =>
    exact Traversal.mapM_cons_eq_error (declaration_of_type (type_of_idColumn? numbers))

/-- A table cannot be created because of the kind of an index, or else because of a column, or else
because of its keys. -/
theorem creation_eq_error_iff {e : SchemaError} :
    table.creation = .error e ↔
      (∃ kind, table.unsupportedKind? = some kind ∧ e = .unsupportedIndex kind) ∨
        table.unsupportedKind? = none ∧ (table.columns.mapM declaration = .error e ∨
          (∃ declared, table.columns.mapM declaration = .ok declared) ∧
            table.primaryKeyClause = .error e) := by
  -- The column that numbers the rows is declared without fail, and drops out on both sides.
  have declarable : (∃ declared, table.columns.mapM declaration = .ok declared) ↔
      ∃ declared, table.effectiveColumns.mapM declaration = .ok declared := by
    have failures (e : SchemaError) : table.effectiveColumns.mapM declaration = .error e ↔
        table.columns.mapM declaration = .error e := mapM_declaration_effectiveColumns
    cases own : table.columns.mapM declaration with
    | error cause => simp [(failures cause).2 own]
    | ok declared =>
      cases all : table.effectiveColumns.mapM declaration with
      | error cause => cases own.symm.trans ((failures cause).1 all)
      | ok more => simp
  rw [declarable, ← mapM_declaration_effectiveColumns]
  unfold Table.creation
  cases table.unsupportedKind? with
  | some kind => simp [eq_comm]
  | none =>
    cases table.effectiveColumns.mapM declaration with
    | error cause => simp [bind, Except.bind]
    | ok declared =>
      cases table.primaryKeyClause with
      | error cause => simp [bind, Except.bind]
      | ok key => simp [bind, Except.bind, pure, Except.pure]

/-- Where the kinds of the indexes and the lists of key columns are no obstacle, a table cannot be
created only because one of its columns cannot be declared. -/
theorem creation_eq_error {e : SchemaError} (supported : table.unsupportedKind? = none)
    (agree : table.KeysAgree) :
    table.creation = .error e ↔ table.columns.mapM declaration = .error e := by
  obtain ⟨key, primaryKey⟩ := exists_primaryKeyClause agree
  rw [creation_eq_error_iff, supported, primaryKey]
  simp

end Table

end WarehouseSchema
