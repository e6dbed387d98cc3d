import WarehouseSchema.Proofs.Table.Readability

/-!
# Keys and the columns they name

The options of a table ask for a key where they list columns for it, and a property asks for one by
the column it stands at. An index asks for a key whether it lists columns or not: without any, its
clause has nothing between the parentheses. Where it is a primary key, it is asked before the
properties and the column that numbers the rows, and they are not asked any more.

## What is proved

`keys_name_columns_iff`: the statement that creates a table has no key clause without columns, and
the primary key is the first list that names any, exactly where every index lists columns.

`KeyClause.suffix_render_iff` tells an empty list from the text of its clause.
-/

set_option autoImplicit false

namespace WarehouseSchema

namespace KeyClause

/-- A list of names ends with a quote. -/
theorem getLast?_identifiers {names : List String} (named : names ≠ []) :
    (Quoted.identifiers names).toList.getLast? = some '"' := by
  rw [Quoted.identifiers, String.toList_intercalate, List.map_map]
  induction names with
  | nil => exact absurd rfl named
  | cons name rest ih =>
    cases rest with
    | nil =>
      have characters : (Quoted.identifier name).toList = '"' :: name.toList ++ ['"'] := by
        simp [Quoted.identifier]
      rw [List.map_singleton, List.intercalate_singleton, Function.comp_apply, characters,
        List.getLast?_concat]
    | cons next rest =>
      rw [List.map_cons, List.map_cons, List.intercalate_cons_cons, List.getLast?_append,
        ← List.map_cons, ih (List.cons_ne_nil _ _)]
      rfl

/-- A clause ends with an empty pair of parentheses where it lists no column, and nowhere else. -/
theorem suffix_render_iff {clause : KeyClause} :
    ['(', ')'] <:+ clause.render.toList ↔ clause.columns = [] := by
  obtain ⟨lead, text⟩ : ∃ lead, clause.render.toList =
      lead ++ '(' :: (Quoted.identifiers clause.columns).toList ++ [')'] := by
    refine ⟨constraintCharacters clause.constraint ++ (clause.kind.words.toList ++ [' ']), ?_⟩
    simp [toList_render, columnsCharacters]
  rw [text]
  constructor
  · rintro ⟨before, same⟩
    by_contra named
    -- What stands before the last parenthesis would be a parenthesis and the quote of a name.
    have closed : before ++ ['('] ++ [')'] =
        lead ++ '(' :: (Quoted.identifiers clause.columns).toList ++ [')'] := by
      rw [← same, List.append_assoc]
      rfl
    have ends : before ++ ['('] = lead ++ '(' :: (Quoted.identifiers clause.columns).toList :=
      List.append_cancel_right closed
    have last := congrArg List.getLast? ends
    rw [List.getLast?_concat, List.getLast?_append, List.getLast?_cons,
      getLast?_identifiers named] at last
    cases last
  · intro empty
    rw [empty]
    exact ⟨lead, by simp [Quoted.identifiers]⟩

end KeyClause

namespace Table

variable {table : Table}

/-! ## The first list that names a column -/

/-- The lists that may be the columns of the primary key, in the order in which they are asked. -/
def keyLists (table : Table) : List (List String) :=
  table.options.primaryKey :: (table.keyIndexes.map (·.columns) ++
    [table.flaggedColumns, table.idColumn?.toList.map (·.name)])

/-- The first of these lists that names a column. -/
def namedKey? (table : Table) : Option (List String) :=
  table.keyLists.find? fun columns => !columns.isEmpty

theorem namedKey?_ne_nil {columns : List String} (found : table.namedKey? = some columns) :
    columns ≠ [] := by
  rintro rfl
  exact absurd (List.find?_some found) (by decide)

/-- A source that names columns is the first to do so: the lists before it are empty. -/
theorem KeySource.namedKey?_eq {columns : List String} (source : KeySource table columns)
    (agree : table.KeysAgree) (named : columns ≠ []) : table.namedKey? = some columns := by
  have found (rest : List (List String)) :
      (columns :: rest).find? (fun columns => !columns.isEmpty) = some columns :=
    List.find?_cons_of_pos (by simpa using named)
  have same (index : Index) (mem : index ∈ table.keyIndexes) : index.columns = columns :=
    source.columns_of_index agree mem
  unfold namedKey? keyLists
  cases source with
  | option chosen => exact found _
  | index unchosen mem =>
    obtain ⟨first, rest, indexes⟩ := List.exists_cons_of_ne_nil (List.ne_nil_of_mem mem)
    rw [unchosen, indexes, List.map_cons, same first (indexes ▸ List.mem_cons_self)]
    exact found _
  | flagged unchosen noIndex flagged =>
    rw [unchosen, noIndex]
    exact found _
  | numbering unchosen noIndex unflagged numbers =>
    rw [unchosen, noIndex, unflagged, numbers]
    exact found []

/-- Where no source names a column, none of the lists does. -/
theorem namedKey?_eq_none (unchosen : table.options.primaryKey = [])
    (noIndex : table.keyIndexes = []) (unflagged : table.flaggedColumns = [])
    (unnumbered : table.idColumn? = none) :
    table.namedKey? = none := by
  rw [namedKey?, keyLists, unchosen, noIndex, unflagged, unnumbered]
  rfl

/-! ## Clauses and the indexes they come from -/

/-- A table with an index that is a primary key has the columns of the index as its key. -/
theorem Declares.primaryKey_of_index {creation : Creation} (declares : table.Declares creation)
    {index : Index} (mem : index ∈ table.keyIndexes) :
    creation.primaryKey = some (table.explicitClause index.columns) := by
  obtain ⟨agree, ⟨columns, source, clause⟩ | ⟨-, -, noIndex, -⟩⟩ :=
    primaryKeyClause_eq_ok declares.primaryKey
  · rw [source.columns_of_index agree mem]
    exact clause
  · rw [noIndex] at mem
    cases mem

/-- Every index of a table that can be created has its columns in some clause. -/
theorem Declares.clause_of_index {creation : Creation} (declares : table.Declares creation)
    {index : Index} (mem : index ∈ table.indexes) :
    ∃ clause ∈ creation.clauses, clause.columns = index.columns := by
  cases kind : index.kind with
  | unique =>
    refine ⟨.ofIndex .unique index, List.mem_append_right _ ?_, rfl⟩
    rw [declares.uniques]
    exact mem_uniqueClauses.2 (.inr ⟨index, mem, kind, rfl⟩)
  | primaryKey =>
    have key : index ∈ table.keyIndexes := List.mem_filter.2 ⟨mem, by rw [kind]; rfl⟩
    refine ⟨table.explicitClause index.columns, List.mem_append_left _ ?_, rfl⟩
    rw [declares.primaryKey_of_index key]
    exact List.mem_singleton_self _
  | other name =>
    have refused := List.findSome?_eq_none_iff.1 declares.supported index mem
    rw [kind] at refused
    cases refused

/-- A clause without columns comes from an index without any. -/
theorem Declares.ne_nil_of_clause {creation : Creation} (declares : table.Declares creation)
    (named : ∀ index ∈ table.indexes, index.columns ≠ []) {clause : KeyClause}
    (mem : clause ∈ creation.clauses) : clause.columns ≠ [] := by
  rcases List.mem_append.1 mem with primary | unique
  · exact (declares.source (Option.mem_toList.1 primary)).1.ne_nil fun index mem =>
      named index (List.mem_of_mem_filter mem)
  · rw [declares.uniques] at unique
    rcases mem_uniqueClauses.1 unique with ⟨chosen, rfl⟩ | ⟨index, indexed, -, rfl⟩
    · exact chosen
    · exact named index indexed

/-- The statement that creates a table has no key clause without columns exactly where every index
lists columns; and its primary key is the first list that names any exactly where every index that
is a primary key does. -/
theorem keys_name_columns_iff {creation : Creation} (created : table.creation = .ok creation) :
    ((∀ clause ∈ creation.clauses, ¬ ['(', ')'] <:+ clause.render.toList) ↔
      ∀ index ∈ table.indexes, index.columns ≠ []) ∧
    (creation.primaryKey.map (·.columns) = table.namedKey? ↔
      ∀ index ∈ table.keyIndexes, index.columns ≠ []) := by
  have declares := creation_eq_ok.1 created
  simp only [KeyClause.suffix_render_iff]
  refine ⟨⟨?_, ?_⟩, ⟨?_, ?_⟩⟩
  · intro named index mem
    obtain ⟨clause, among, same⟩ := declares.clause_of_index mem
    rw [← same]
    exact named clause among
  · intro named clause
    exact declares.ne_nil_of_clause named
  · intro first index mem
    rw [declares.primaryKey_of_index mem] at first
    exact namedKey?_ne_nil first.symm
  · intro named
    obtain ⟨agree, ⟨columns, source, clause⟩ | ⟨none, unchosen, noIndex, unflagged, unnumbered⟩⟩ :=
      primaryKeyClause_eq_ok declares.primaryKey
    · rw [clause, source.namedKey?_eq agree (source.ne_nil named)]
      rfl
    · rw [none, namedKey?_eq_none unchosen noIndex unflagged unnumbered]
      rfl

/-- An option, an index and a property name the key, and another index is unique. -/
theorem keys_name_columns_iff_at_unique_index :
    let code := (Column.declare "code" "varchar").withProperty "primary key"
    let table : Table := ⟨"orders", ⟨.disabled, ["code"], [], none⟩, [code],
      [(Index.unnamed .primaryKey ["code"]).named "pk", .unnamed .unique ["code"]]⟩
    ∃ creation, table.creation = .ok creation ∧
      (∀ clause ∈ creation.clauses, ¬ ['(', ')'] <:+ clause.render.toList) ∧
      creation.primaryKey.map (·.columns) = some ["code"] := by
  intro code table
  let creation : Creation := ⟨"orders", [(code.name, code.definitionOf .varchar)],
    some ⟨some "pk", .primary, ["code"]⟩, [.unnamed .unique ["code"]], none⟩
  have codeType : code.type = .ok .varchar := DataType.resolveZoned_keyword .varchar
  have created : table.creation = .ok creation :=
    creation_eq_ok.2 ⟨rfl, rfl, .cons (declaration_of_type codeType) .nil, rfl, rfl, rfl⟩
  obtain ⟨nonempty, first⟩ := keys_name_columns_iff created
  exact ⟨creation, created, nonempty.2 (by decide), first.2 (by decide)⟩

/-- An index that is a primary key without columns stands before the property that names one. -/
theorem key_without_columns :
    let code := (Column.declare "code" "varchar").withProperty "primary key"
    let table : Table := ⟨"orders", ⟨.disabled, [], [], none⟩, [code], [.unnamed .primaryKey []]⟩
    ∃ creation, table.creation = .ok creation ∧
      creation.render = "create table \"orders\" (\"code\" varchar null, primary key ())" ∧
      table.namedKey? = some ["code"] := by
  intro code table
  let creation : Creation := ⟨"orders", [(code.name, code.definitionOf .varchar)],
    some (.unnamed .primary []), [], none⟩
  have codeType : code.type = .ok .varchar := DataType.resolveZoned_keyword .varchar
  have created : table.creation = .ok creation :=
    creation_eq_ok.2 ⟨rfl, rfl, .cons (declaration_of_type codeType) .nil, rfl, rfl, rfl⟩
  exact ⟨creation, created, by decide +kernel, by decide +kernel⟩

end Table

end WarehouseSchema
