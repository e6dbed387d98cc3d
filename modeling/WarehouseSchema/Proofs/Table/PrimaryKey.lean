import WarehouseSchema.Proofs.DataType.Spelling
import WarehouseSchema.Proofs.Table.Declaration

/-!
# One primary key for a table

A table may be given its primary key by an option, by indexes, by properties of its columns and by
the column that numbers its rows. The statement that creates it has one clause for all of them.

## What is proved

`single_primary_key`: of the parts of a statement that creates a table, the primary key clause is
the only one, and it stands where any source names a key. Its columns come from the first source
that names any, its name from the first index that has one. The properties that ask for a key are
not repeated in the columns, and the column that numbers the rows comes first and has a name of its
own.

`Creation.readsAsPrimaryKey` finds the clause in the text of a part. A name with a double quote in
it could end early there, so what it finds is told for names without one.
-/

set_option autoImplicit false

namespace WarehouseSchema

namespace Column

/-- The column without the properties that make it part of the primary key. -/
def withoutKeyProperties (column : Column) : Column :=
  { column with properties := column.properties.filter fun property =>
      !Keyword.isPrimaryKey property }

/-- A property that asks for the key is not written in the definition. -/
theorem definition_withoutKeyProperties (column : Column) :
    column.withoutKeyProperties.definition = column.definition := by
  have same (type : DataType) :
      column.withoutKeyProperties.definitionOf type = column.definitionOf type := by
    simp only [definitionOf, withoutKeyProperties, List.filter_filter, Bool.and_self]
    rfl
  show column.dataType.map column.withoutKeyProperties.definitionOf = _
  rw [funext same]
  rfl

end Column

namespace Creation

/-- The keys that a statement declares, in their order. -/
def clauses (creation : Creation) : List KeyClause :=
  creation.primaryKey.toList ++ creation.uniques

/-- What stands between the parentheses are the columns and then the clauses. -/
theorem parts_eq (creation : Creation) :
    creation.parts =
      creation.columns.map columnText ++ creation.clauses.map KeyClause.render := by
  rw [parts, clauses, List.map_append, List.append_assoc]

/-- Each key of a statement stands in the place for its kind. -/
structure KeysInPlace (creation : Creation) : Prop where
  primary : ∀ clause ∈ creation.primaryKey, clause.kind = .primary
  unique : ∀ clause ∈ creation.uniques, clause.kind = .unique

/-- There is one clause for the primary key or none. -/
theorem KeysInPlace.filter_primary {creation : Creation} (inPlace : creation.KeysInPlace) :
    creation.clauses.filter (fun clause => clause.kind = .primary) =
      creation.primaryKey.toList := by
  have primary : creation.primaryKey.toList.filter (fun clause => clause.kind = .primary) =
      creation.primaryKey.toList := by
    apply List.filter_eq_self.2
    intro clause mem
    rw [inPlace.primary clause (Option.mem_toList.1 mem)]
    rfl
  have unique : creation.uniques.filter (fun clause => clause.kind = .primary) = [] := by
    apply List.filter_eq_nil_iff.2
    intro clause mem
    rw [inPlace.unique clause mem]
    decide
  rw [clauses, List.filter_append, primary, unique, List.append_nil]

/-! ## Finding a primary key clause in a text -/

/-- A part of a statement without the name of its constraint, if it begins with one. -/
def afterConstraint (part : String) : List Char :=
  match part.toList.dropPrefix? "constraint \"".toList with
  | some named => (named.dropWhile (· != '"')).drop 2
  | none => part.toList

/-- Whether a part of a statement reads as a primary key clause. -/
def readsAsPrimaryKey (part : String) : Bool :=
  "primary key (".toList.isPrefixOf (afterConstraint part)

/-- No declaration of a column reads as a primary key, whatever its name. -/
theorem readsAsPrimaryKey_columnText (column : String × ColumnDefinition) :
    readsAsPrimaryKey (columnText column) = false := by
  have text : (columnText column).toList =
      '"' :: (column.1.toList ++ '"' :: ' ' :: column.2.render.toList) := by
    simp [columnText, Quoted.identifier]
  rw [readsAsPrimaryKey, afterConstraint, text]
  rfl

/-- Behind the name of its constraint a clause says its kind. -/
theorem afterConstraint_render {clause : KeyClause}
    (plain : ∀ name ∈ clause.constraint, '"' ∉ name.toList) :
    afterConstraint clause.render =
      clause.kind.words.toList ++ " (".toList ++ (Quoted.identifiers clause.columns).toList ++
        [')'] := by
  obtain ⟨constraint, kind, columns⟩ := clause
  cases constraint with
  | none =>
    have text : (KeyClause.render ⟨none, kind, columns⟩).toList =
        kind.words.toList ++ " (".toList ++ (Quoted.identifiers columns).toList ++ [')'] := by
      simp [KeyClause.render]
    rw [afterConstraint, text]
    cases kind <;> rfl
  | some name =>
    have text : (KeyClause.render ⟨some name, kind, columns⟩).toList =
        "constraint \"".toList ++ (name.toList ++ '"' :: ' ' :: (kind.words.toList ++
          " (".toList ++ (Quoted.identifiers columns).toList ++ [')'])) := by
      simp [KeyClause.render, Quoted.identifier]
    -- The name ends at the first quote, since there is none in it.
    have ended (rest : List Char) :
        (name.toList ++ '"' :: rest).dropWhile (· != '"') = '"' :: rest := by
      rw [List.dropWhile_append_of_pos]
      · rfl
      · intro c mem
        have other : c ≠ '"' := fun same => plain name rfl (same ▸ mem)
        simpa using other
    have named (rest : List Char) :
        ("constraint \"".toList ++ rest).dropPrefix? "constraint \"".toList = some rest :=
      List.dropPrefix?_append_of_beq rest (beq_self_eq_true _)
    rw [afterConstraint, text, named]
    show ((name.toList ++ '"' :: _).dropWhile (· != '"')).drop 2 = _
    rw [ended]
    rfl

/-- A key clause reads as a primary key exactly where it is one. -/
theorem readsAsPrimaryKey_render {clause : KeyClause}
    (plain : ∀ name ∈ clause.constraint, '"' ∉ name.toList) :
    readsAsPrimaryKey clause.render = decide (clause.kind = .primary) := by
  rw [readsAsPrimaryKey, afterConstraint_render plain]
  cases clause.kind <;> rfl

/-- Among the parts of a statement, the primary key clauses of its keys are found. -/
theorem filter_readsAsPrimaryKey_parts {creation : Creation}
    (plain : ∀ clause ∈ creation.clauses, ∀ name ∈ clause.constraint, '"' ∉ name.toList) :
    creation.parts.filter readsAsPrimaryKey =
      (creation.clauses.filter fun clause => clause.kind = .primary).map KeyClause.render := by
  have columns : (creation.columns.map columnText).filter readsAsPrimaryKey = [] := by
    rw [List.filter_eq_nil_iff, List.forall_mem_map]
    intro column _
    rw [readsAsPrimaryKey_columnText]
    exact Bool.false_ne_true
  have keys : (creation.clauses.map KeyClause.render).filter readsAsPrimaryKey =
      (creation.clauses.filter fun clause => clause.kind = .primary).map KeyClause.render := by
    rw [List.filter_map]
    congr 1
    apply List.filter_congr
    intro clause mem
    exact readsAsPrimaryKey_render (plain clause mem)
  rw [parts_eq, List.filter_append, columns, keys, List.nil_append]

end Creation

namespace Table

variable {table : Table}

/-! ## The columns and the keys of a statement -/

/-- The column that numbers the rows takes no name that is taken. -/
theorem nodup_effectiveColumns (distinct : (table.columns.map (·.name)).Nodup) :
    (table.effectiveColumns.map (·.name)).Nodup := by
  rw [effectiveColumns, List.map_append]
  cases numbers : table.idColumn? with
  | none => exact distinct
  | some column =>
    obtain ⟨name, limit, -, absent, rfl⟩ := idColumn?_eq_some.1 numbers
    refine List.nodup_cons.2 ⟨?_, distinct⟩
    intro mem
    obtain ⟨declared, mem, same⟩ := List.mem_map.1 mem
    exact absent declared mem same

/-- A source names columns, if every key index does. -/
theorem KeySource.ne_nil {columns : List String} (source : KeySource table columns)
    (named : ∀ index ∈ table.keyIndexes, index.columns ≠ []) : columns ≠ [] := by
  cases source with
  | option chosen => exact chosen
  | index unchosen mem => exact named _ mem
  | flagged unchosen noIndex flagged => exact flagged
  | numbering unchosen noIndex unflagged numbers => exact List.cons_ne_nil _ _

/-- Some column is flagged where one has a property that asks for the key. -/
theorem flaggedColumns_ne_nil :
    table.flaggedColumns ≠ [] ↔ ∃ column ∈ table.columns, column.isPrimaryKey = true := by
  rw [flaggedColumns, Ne, List.map_eq_nil_iff, List.filter_eq_nil_iff]
  push Not
  rfl

/-- The lists of the indexes agree with the source of the key. -/
theorem KeySource.columns_of_index {columns : List String} (source : KeySource table columns)
    (agree : table.KeysAgree) {index : Index} (mem : index ∈ table.keyIndexes) :
    index.columns = columns := by
  have listed : index.columns ∈ table.explicitKeys := mem_explicitKeys.2 (.inr ⟨index, mem, rfl⟩)
  cases source with
  | option chosen => exact agree _ listed _ (mem_explicitKeys.2 (.inl ⟨chosen, rfl⟩))
  | @index other unchosen memToo =>
    exact agree _ listed _ (mem_explicitKeys.2 (.inr ⟨other, memToo, rfl⟩))
  | flagged unchosen noIndex flagged =>
    rw [noIndex] at mem
    cases mem
  | numbering unchosen noIndex unflagged numbers =>
    rw [noIndex] at mem
    cases mem

/-- A key comes from an option, an index, a property or the numbering of the rows. -/
theorem KeySource.exists_source {columns : List String} (source : KeySource table columns) :
    table.options.primaryKey ≠ [] ∨ table.keyIndexes ≠ [] ∨
      (∃ column ∈ table.columns, column.isPrimaryKey = true) ∨ table.idColumn?.isSome = true := by
  cases source with
  | option chosen => exact .inl chosen
  | index unchosen mem => exact .inr (.inl (List.ne_nil_of_mem mem))
  | flagged unchosen noIndex flagged =>
    exact .inr (.inr (.inl (flaggedColumns_ne_nil.1 flagged)))
  | numbering unchosen noIndex unflagged numbers =>
    rw [numbers]
    exact .inr (.inr (.inr rfl))

/-- A unique constraint has its name from an index. -/
theorem index_of_mem_uniqueClauses {clause : KeyClause} (mem : clause ∈ table.uniqueClauses)
    {name : String} (named : clause.constraint = some name) :
    ∃ index ∈ table.indexes, index.name = some name := by
  rcases mem_uniqueClauses.1 mem with ⟨-, rfl⟩ | ⟨index, indexed, -, rfl⟩
  · cases named
  · exact ⟨index, indexed, named⟩

/-- The primary key has its name from an index. -/
theorem index_of_explicitClause {columns : List String} {name : String}
    (named : (table.explicitClause columns).constraint = some name) :
    ∃ index ∈ table.indexes, index.name = some name := by
  obtain ⟨index, mem, found⟩ := List.exists_of_findSome?_eq_some named
  exact ⟨index, List.mem_of_mem_filter mem, found⟩

/-- A constraint in a statement has its name from an index of the table. -/
theorem Declares.index_of_constraint {creation : Creation} (declares : table.Declares creation)
    {clause : KeyClause} (mem : clause ∈ creation.clauses) {name : String}
    (named : clause.constraint = some name) : ∃ index ∈ table.indexes, index.name = some name := by
  rcases List.mem_append.1 mem with primary | unique
  · rw [(declares.source (Option.mem_toList.1 primary)).2] at named
    exact index_of_explicitClause named
  · rw [declares.uniques] at unique
    exact index_of_mem_uniqueClauses unique named

/-- The clauses of a table that is created stand where they belong. -/
theorem Declares.keysInPlace {creation : Creation} (declares : table.Declares creation) :
    creation.KeysInPlace where
  primary clause mem := by
    rw [(declares.source mem).2]
    rfl
  unique clause mem := by
    rw [declares.uniques] at mem
    rcases mem_uniqueClauses.1 mem with ⟨-, rfl⟩ | ⟨index, -, -, rfl⟩ <;> rfl

/-- How the primary key of a table stands in the statement that creates it. -/
structure ComposesPrimaryKey (table : Table) (creation : Creation) : Prop where
  /-- The columns come first, then the keys, and one of the keys at most is a primary key. -/
  parts : creation.parts =
    creation.columns.map Creation.columnText ++ creation.clauses.map KeyClause.render
  only : creation.clauses.filter (fun clause => clause.kind = .primary) =
    creation.primaryKey.toList
  /-- The text of no other part reads as a primary key clause. -/
  onlyInText : (∀ index ∈ table.indexes, ∀ name ∈ index.name, '"' ∉ name.toList) →
    creation.parts.filter Creation.readsAsPrimaryKey =
      creation.primaryKey.toList.map KeyClause.render
  /-- There is a key exactly where some source names one. -/
  present : creation.primaryKey.isSome = true ↔
    table.options.primaryKey ≠ [] ∨ table.keyIndexes ≠ [] ∨
      (∃ column ∈ table.columns, column.isPrimaryKey = true) ∨ table.idColumn?.isSome = true
  source : ∀ clause ∈ creation.primaryKey, KeySource table clause.columns
  agrees : ∀ clause ∈ creation.primaryKey, ∀ index ∈ table.keyIndexes,
    index.columns = clause.columns
  nonempty : (∀ index ∈ table.keyIndexes, index.columns ≠ []) →
    ∀ clause ∈ creation.primaryKey, clause.columns ≠ []
  constraint : ∀ clause ∈ creation.primaryKey,
    clause.constraint = table.keyIndexes.findSome? (·.name)
  /-- Each column is declared as it is without the properties that ask for a key. -/
  columns : List.Forall₂ (fun column declared => declaration column = .ok declared ∧
      declaration column.withoutKeyProperties = .ok declared ∧
      ∀ property ∈ declared.2.properties, Keyword.isPrimaryKey property = false)
    table.effectiveColumns creation.columns
  /-- The column that numbers the rows comes first, and no declared column has its name. -/
  names : creation.columns.map Prod.fst =
    table.idColumn?.toList.map (·.name) ++ table.columns.map (·.name)
  numbering : ∀ column, table.idColumn? = some column ↔
    ∃ name limit, table.options.id.request = some (name, limit) ∧
      (∀ declared ∈ table.columns, declared.name ≠ name) ∧ column = Table.numbering name limit
  distinct : (table.columns.map (·.name)).Nodup → (creation.columns.map Prod.fst).Nodup

/-- A table that can be created has one primary key at most, from the first source that names
one. -/
theorem single_primary_key {creation : Creation} (created : table.creation = .ok creation) :
    table.ComposesPrimaryKey creation := by
  have declares := creation_eq_ok.1 created
  obtain ⟨agree, key⟩ := primaryKeyClause_eq_ok declares.primaryKey
  have only : creation.clauses.filter (fun clause => clause.kind = .primary) =
      creation.primaryKey.toList := declares.keysInPlace.filter_primary
  have names : creation.columns.map Prod.fst = table.effectiveColumns.map (·.name) :=
    declares.names
  refine
    { parts := creation.parts_eq
      only
      onlyInText := ?_
      present := ?_
      source := fun clause mem => (declares.source mem).1
      agrees := fun clause mem index => (declares.source mem).1.columns_of_index agree
      nonempty := fun named clause mem => (declares.source mem).1.ne_nil named
      constraint := fun clause mem => congrArg KeyClause.constraint (declares.source mem).2
      columns := ?_
      names := ?_
      numbering := fun column => idColumn?_eq_some
      distinct := ?_ }
  · intro plain
    rw [Creation.filter_readsAsPrimaryKey_parts, only]
    intro clause mem name named
    obtain ⟨index, indexed, same⟩ := declares.index_of_constraint mem named
    exact plain index indexed name same
  · constructor
    · intro stands
      obtain ⟨clause, same⟩ := Option.isSome_iff_exists.1 stands
      exact (declares.source same).1.exists_source
    -- A table without a key has none of the sources.
    · intro named
      rcases key with ⟨columns, -, key⟩ | ⟨-, unchosen, noIndex, unflagged, unnumbered⟩
      · rw [key]
        rfl
      · rcases named with chosen | indexed | flagged | numbered
        · exact absurd unchosen chosen
        · exact absurd noIndex indexed
        · exact absurd unflagged (flaggedColumns_ne_nil.2 flagged)
        · rw [unnumbered] at numbered
          cases numbered
  · refine declares.columns.imp fun column declared read => ⟨read, ?_, ?_⟩
    · rw [declaration, Column.definition_withoutKeyProperties]
      exact read
    · obtain ⟨type, -, rfl⟩ := eq_of_declaration read
      intro property mem
      simpa using (List.mem_filter.1 mem).2
  · rw [names, effectiveColumns, List.map_append]
  · intro distinct
    rw [names]
    exact nodup_effectiveColumns distinct

/-- An option, two indexes and a property ask for the same key, and one of the indexes names it. -/
theorem single_primary_key_at_named_index :
    let code :=
      ((Column.declare "code" "varchar").withProperty "unique").withProperty "PRIMARY_KEY "
    let table : Table := ⟨"orders", ⟨.implicit, ["code"], [], none⟩, [code],
      [.unnamed .primaryKey ["code"], (Index.unnamed .unique ["code"]).named "uq",
        (Index.unnamed .primaryKey ["code"]).named "pk"]⟩
    ∃ creation, table.creation = .ok creation ∧
      creation.columns.map Prod.fst = ["id", "code"] ∧
      creation.parts.filter Creation.readsAsPrimaryKey =
        ["constraint \"pk\" primary key (\"code\")"] := by
  intro code table
  let id := numbering "id" none
  let creation : Creation := ⟨"orders",
    [(id.name, id.definitionOf .number), (code.name, code.definitionOf .varchar)],
    some ⟨some "pk", .primary, ["code"]⟩, [⟨some "uq", .unique, ["code"]⟩], none⟩
  have idType : id.type = .ok .number := DataType.resolveZoned_keyword .number
  have codeType : code.type = .ok .varchar := DataType.resolveZoned_keyword .varchar
  have effective : table.effectiveColumns = [id, code] := by rfl
  have key : table.primaryKeyClause = .ok creation.primaryKey := by rfl
  have declared : List.Forall₂ (fun column declared => declaration column = .ok declared)
      table.effectiveColumns creation.columns := by
    rw [effective]
    exact .cons (declaration_of_type idType) (.cons (declaration_of_type codeType) .nil)
  have created : table.creation = .ok creation :=
    creation_eq_ok.2 ⟨rfl, rfl, declared, key, rfl, rfl⟩
  have composed := single_primary_key created
  have plain : ∀ index ∈ table.indexes, ∀ name ∈ index.name, '"' ∉ name.toList := by decide
  refine ⟨creation, created, composed.names, ?_⟩
  rw [composed.onlyInText plain]
  rfl

end Table

end WarehouseSchema
