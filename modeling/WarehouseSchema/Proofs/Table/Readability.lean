import WarehouseSchema.Proofs.Column.Legible
import WarehouseSchema.Proofs.Table.PrimaryKey

/-!
# Statements that create tables are read in one way

## What is proved

`created_text_tells_the_table`: two tables that are created by the same text have the same name,
columns that are declared alike, and the same keys and comment.

The list between the parentheses mixes columns with keys. A column begins with a quote, a key with a
word, so each part is legible, and the kinds of the keys tell the primary key from the others. Names
are written as they are, so the law is about names without a double quote; comments and collations
may be any text.
-/

set_option autoImplicit false

namespace WarehouseSchema

open Text

/-! ## Keys -/

namespace KeyClause

/-- No name in the clause contains a double quote. -/
structure Plain (clause : KeyClause) : Prop where
  constraint : ∀ name ∈ clause.constraint, '"' ∉ name.toList
  columns : ∀ name ∈ clause.columns, '"' ∉ name.toList

/-- The text of the name of a constraint, where there is one. -/
def constraintCharacters : Option String → List Char :=
  ifSome fun name => "constraint ".toList ++ ((Quoted.identifier name).toList ++ [' '])

/-- The text of the columns of a key. -/
def columnsCharacters (names : List String) : List Char :=
  " (".toList ++ ((Quoted.identifiers names).toList ++ [')'])

/-- The text of a key clause is its constraint, its kind and its columns, one after another. -/
theorem toList_render (clause : KeyClause) :
    clause.render.toList = constraintCharacters clause.constraint ++
      (clause.kind.words.toList ++ columnsCharacters clause.columns) := by
  obtain ⟨constraint, kind, columns⟩ := clause
  cases constraint with
  | none => simp [render, constraintCharacters, columnsCharacters, ifSome]
  | some name => simp [render, constraintCharacters, columnsCharacters, ifSome]

/-- A key begins with a word. -/
theorem toList_render_eq (clause : KeyClause) :
    ∃ c rest, clause.render.toList = c :: rest ∧ c ≠ '"' ∧ c ≠ ')' := by
  rw [toList_render]
  cases clause.constraint with
  | some name => exact ⟨'c', _, rfl, by decide⟩
  | none =>
    cases clause.kind with
    | primary => exact ⟨'p', _, rfl, by decide⟩
    | unique => exact ⟨'u', _, rfl, by decide⟩

/-- A list of names without double quotes ends at the closing parenthesis. -/
theorem legible_identifiers :
    Legible (fun names : List String => ∀ name ∈ names, '"' ∉ name.toList)
      (fun names => (Quoted.identifiers names).toList) (fun r => ∃ rest, r = ')' :: rest) := by
  have joined := (legible_identifier.of_follows fun _ (_ : Closed _) => trivial).joined
    fun name _ => ⟨'"', name.toList ++ ['"'], by simp [Quoted.identifier], by decide⟩
  apply joined.congr
  intro names _
  rw [Quoted.identifiers, String.toList_intercalate, List.map_map]
  rfl

/-- The two kinds of key have words of their own. -/
theorem legible_words :
    Legible (fun _ => True) (fun kind : KeyKind => kind.words.toList) (fun _ => True) := by
  rintro (_ | _) (_ | _) r s - - - - same
  · exact ⟨rfl, List.append_cancel_left same⟩
  · cases same
  · cases same
  · exact ⟨rfl, List.append_cancel_left same⟩

/-- A key clause ends with its closing parenthesis, whatever follows. -/
theorem legible_render : Legible Plain (fun clause => clause.render.toList) (fun _ => True) := by
  have columns := (legible_identifiers.before [')'] fun r (_ : True) => ⟨r, rfl⟩).behind
    " (".toList
  have words := legible_words.pair columns fun _ _ _ _ => trivial
  have constraint := (legible_identifier.before [' '] fun r (_ : True) => trivial).optional
    "constraint ".toList
  -- A clause without a name begins with its kind, and neither kind begins as a name does.
  have whole := constraint.pair words fun words r _ _ => by
    refine ⟨trivial, ?_⟩
    cases words.1 with
    | primary => exact not_prefix_of_head (by decide) _ _
    | unique => exact not_prefix_of_head (by decide) _ _
  refine (whole.comap (f := fun clause : KeyClause => (clause.constraint, clause.kind,
    clause.columns)) ?_ ?_).congr fun clause _ => toList_render clause
  · exact fun clause plain => ⟨plain.constraint, trivial, plain.columns⟩
  · rintro ⟨constraint, kind, columns⟩ ⟨constraint', kind', columns'⟩ _ _ ⟨⟩
    rfl

end KeyClause

/-! ## The parts of a statement -/

namespace Creation

/-- What a part of a statement declares. -/
abbrev Part := (String × ColumnDefinition) ⊕ KeyClause

/-- A part in which no name contains a double quote, with a plain definition if it is a column. -/
def Part.Plain : Part → Prop
  | .inl column => '"' ∉ column.1.toList ∧ column.2.Plain
  | .inr clause => clause.Plain

/-- The text of a part. -/
def Part.render : Part → String
  | .inl column => columnText column
  | .inr clause => clause.render

/-- A declared column ends where a comma or a parenthesis closes it. -/
theorem legible_columnText :
    Legible (fun column : String × ColumnDefinition => '"' ∉ column.1.toList ∧ column.2.Plain)
      (fun column => (columnText column).toList) Closed := by
  have pieces := legible_identifier.pair (ColumnDefinition.legible_render.behind [' '])
    fun _ _ _ _ => trivial
  apply pieces.congr
  intro column _
  simp [columnText]

/-- A declared column begins with the quote of its name. -/
theorem toList_columnText_eq (column : String × ColumnDefinition) :
    ∃ rest, (columnText column).toList = '"' :: rest :=
  ⟨column.1.toList ++ '"' :: ' ' :: column.2.render.toList, by
    simp [columnText, Quoted.identifier]⟩

/-- No column is declared by a text that declares a key. -/
theorem columnText_append_ne (column : String × ColumnDefinition) (clause : KeyClause)
    (r s : List Char) : (columnText column).toList ++ r ≠ clause.render.toList ++ s := by
  obtain ⟨rest, column⟩ := toList_columnText_eq column
  obtain ⟨c, rest', clause, other, -⟩ := clause.toList_render_eq
  rw [column, clause]
  intro same
  exact other (List.cons_eq_cons.1 same).1.symm

/-- A declaration tells whether it is that of a column or of a key, and which. -/
theorem legible_part : Legible Part.Plain (fun part => part.render.toList) Closed := by
  rintro (column | clause) (column' | clause') r s plain plain' fr fs same
  · obtain ⟨rfl, rest⟩ := legible_columnText plain plain' fr fs same
    exact ⟨rfl, rest⟩
  · exact absurd same (columnText_append_ne column clause' r s)
  · exact absurd same.symm (columnText_append_ne column' clause s r)
  · obtain ⟨rfl, rest⟩ := KeyClause.legible_render plain plain' trivial trivial same
    exact ⟨rfl, rest⟩

/-! ## The statement -/

/-- What the parts of a statement declare. -/
def declarations (creation : Creation) : List Part :=
  creation.columns.map .inl ++ creation.clauses.map .inr

/-- No name in the statement contains a double quote, the definitions are plain, and each key stands
in its place. -/
structure Plain (creation : Creation) : Prop where
  table : '"' ∉ creation.table.toList
  declarations : ∀ part ∈ creation.declarations, part.Plain
  inPlace : creation.KeysInPlace

/-- What stands between the parentheses are the columns and then the keys. -/
theorem parts_eq_map_declarations (creation : Creation) :
    creation.parts = creation.declarations.map Part.render := by
  rw [parts_eq, declarations, List.map_append, List.map_map, List.map_map]
  rfl

/-- The text that creates a table is its name, its declarations and its comment, one after
another. -/
theorem toList_render (creation : Creation) :
    creation.render.toList = "create table ".toList ++ ((Quoted.identifier creation.table).toList ++
      ((" (".toList ++ ([',', ' '].intercalate (creation.declarations.map fun part =>
        part.render.toList) ++ [')'])) ++ announced " comment = " creation.comment)) := by
  have parts : (", ".intercalate creation.parts).toList =
      [',', ' '].intercalate (creation.declarations.map fun part => part.render.toList) := by
    rw [parts_eq_map_declarations, String.toList_intercalate, List.map_map]
    rfl
  rw [← parts]
  unfold render
  cases creation.comment with
  | none => simp [announced, ifSome]
  | some comment => simp [announced, ifSome]

/-- The columns among the declarations are those of the statement. -/
theorem filterMap_getLeft?_declarations (creation : Creation) :
    creation.declarations.filterMap Sum.getLeft? = creation.columns := by
  simp [declarations, List.filterMap_map, Function.comp_def]

/-- The keys among the declarations are those of the statement. -/
theorem filterMap_getRight?_declarations (creation : Creation) :
    creation.declarations.filterMap Sum.getRight? = creation.clauses := by
  simp [declarations, List.filterMap_map, Function.comp_def]

/-- The declarations tell the columns from the keys, and the kinds of the keys tell the primary key
from the others. -/
theorem eq_of_declarations {creation other : Creation} (inPlace : creation.KeysInPlace)
    (inPlace' : other.KeysInPlace) (table : creation.table = other.table)
    (declarations : creation.declarations = other.declarations)
    (comment : creation.comment = other.comment) : creation = other := by
  have columns : creation.columns = other.columns := by
    rw [← filterMap_getLeft?_declarations, declarations, filterMap_getLeft?_declarations]
  have clauses : creation.clauses = other.clauses := by
    rw [← filterMap_getRight?_declarations, declarations, filterMap_getRight?_declarations]
  -- The clauses are told in one list; their kinds say where the primary key ends.
  have keys : creation.primaryKey.toList = other.primaryKey.toList := by
    rw [← inPlace.filter_primary, clauses, inPlace'.filter_primary]
  have primaryKey : creation.primaryKey = other.primaryKey := by
    rw [← creation.primaryKey.head?_toList, keys, Option.head?_toList]
  have uniques : creation.uniques = other.uniques := by
    rw [Creation.clauses, Creation.clauses, keys] at clauses
    exact List.append_cancel_left clauses
  obtain ⟨_, _, _, _, _⟩ := creation
  obtain ⟨_, _, _, _, _⟩ := other
  cases table
  cases columns
  cases primaryKey
  cases uniques
  cases comment
  rfl

/-- Declarations with commas between them end at the closing parenthesis. -/
theorem legible_declarations :
    Legible (fun parts : List Part => ∀ part ∈ parts, part.Plain)
      (fun parts => [',', ' '].intercalate (parts.map fun part => part.render.toList))
      (fun r => ∃ rest, r = ')' :: rest) := by
  apply legible_part.joined
  rintro (column | clause) -
  · obtain ⟨rest, text⟩ := toList_columnText_eq column
    exact ⟨'"', rest, text, by decide⟩
  · obtain ⟨c, rest, text, -, other⟩ := clause.toList_render_eq
    exact ⟨c, rest, text, other⟩

/-- A plain statement is told by its text. -/
theorem eq_of_render {creation other : Creation} (plain : creation.Plain)
    (plain' : other.Plain) (same : creation.render = other.render) : creation = other := by
  have parts := (legible_declarations.before [')'] fun r (_ : True) => ⟨r, rfl⟩).behind
    " (".toList
  have comment := (legible_announced " comment = ").of_follows
    fun r (ended : r = []) => by
      subst ended
      exact ⟨unopened_nil _, by decide⟩
  have whole := (legible_identifier.pair (parts.pair comment fun _ _ _ _ => trivial)
    fun _ _ _ _ => trivial).behind "create table ".toList
  have texts := congrArg String.toList same
  rw [toList_render, toList_render] at texts
  have told := @whole (creation.table, creation.declarations, creation.comment)
    (other.table, other.declarations, other.comment) [] []
    ⟨plain.table, plain.declarations, trivial⟩ ⟨plain'.table, plain'.declarations, trivial⟩ rfl rfl
    (congrArg (· ++ []) texts)
  obtain ⟨table, rest⟩ := Prod.mk.inj told.1
  obtain ⟨declarations, comment⟩ := Prod.mk.inj rest
  exact eq_of_declarations plain.inPlace plain'.inPlace table declarations comment

end Creation

/-! ## Tables -/

/-- Two columns are declared alike: what the definition of the one says is what that of the other
says, wherever a definition without default and properties says anything. -/
structure Column.DeclaredAs (column other : Column) : Prop where
  name : column.name = other.name
  /-- The parameters count as far as the type is spelled with them, an identity as far as the type
  has one and the clause shows it. -/
  typed : ∃ type, column.dataType = .ok type ∧ other.dataType = .ok type ∧
    column.spellingOf type = other.spellingOf type ∧
    (type.supportsIdentity = true →
      column.identity.map IdentityClause.ofIdentity = other.identity.map .ofIdentity)
  nullable : column.nullable = other.nullable
  comment : column.comment = other.comment

namespace Table

/-- No name in the table contains a double quote, and its columns have neither a default nor a
property but those that ask for a key. -/
structure Plain (table : Table) : Prop where
  name : '"' ∉ table.name.toList
  columns : ∀ column ∈ table.effectiveColumns, '"' ∉ column.name.toList
  primaryKey : ∀ name ∈ table.options.primaryKey, '"' ∉ name.toList
  unique : ∀ name ∈ table.options.unique, '"' ∉ name.toList
  indexes : ∀ index ∈ table.indexes, ∀ name ∈ index.columns, '"' ∉ name.toList
  constraints : ∀ index ∈ table.indexes, ∀ name ∈ index.name, '"' ∉ name.toList
  undefaulted : ∀ column ∈ table.columns, column.default = none
  keyOnly : ∀ column ∈ table.columns, ∀ property ∈ column.properties,
    Keyword.isPrimaryKey property = true

variable {table other : Table}

/-- Every column that a plain table is created with has a plain definition. -/
theorem Plain.definition (plain : table.Plain) {column : Column}
    (mem : column ∈ table.effectiveColumns) (type : DataType) :
    (column.definitionOf type).Plain := by
  rcases List.mem_append.1 mem with numbers | declared
  · obtain ⟨name, limit, -, -, rfl⟩ := idColumn?_eq_some.1 (Option.mem_toList.1 numbers)
    exact Column.plain_definitionOf rfl (fun _ mem => absurd mem List.not_mem_nil) type
  · exact Column.plain_definitionOf (plain.undefaulted column declared)
      (plain.keyOnly column declared) type

/-- The key of a plain table names columns without double quotes. -/
theorem Plain.source (plain : table.Plain) {columns : List String}
    (source : KeySource table columns) : ∀ name ∈ columns, '"' ∉ name.toList := by
  cases source with
  | option chosen => exact plain.primaryKey
  | index unchosen mem => exact plain.indexes _ (List.mem_of_mem_filter mem)
  | flagged unchosen noIndex flagged =>
    intro name mem
    obtain ⟨column, kept, rfl⟩ := List.mem_map.1 mem
    exact plain.columns column (List.mem_append_right _ (List.mem_of_mem_filter kept))
  | numbering unchosen noIndex unflagged numbers =>
    intro name mem
    cases List.mem_singleton.1 mem
    exact plain.columns _ (List.mem_append_left _ (Option.mem_toList.2 numbers))

/-- So do its unique constraints. -/
theorem Plain.uniqueClauses (plain : table.Plain) {clause : KeyClause}
    (mem : clause ∈ table.uniqueClauses) : ∀ name ∈ clause.columns, '"' ∉ name.toList := by
  rcases mem_uniqueClauses.1 mem with ⟨-, rfl⟩ | ⟨index, indexed, -, rfl⟩
  · exact plain.unique
  · exact plain.indexes index indexed

/-- A plain table is created by a plain statement. -/
theorem Declares.plain {creation : Creation} (declares : table.Declares creation)
    (plain : table.Plain) : creation.Plain where
  table := by
    rw [declares.name]
    exact plain.name
  declarations := by
    have columns (column : String × ColumnDefinition) (mem : column ∈ creation.columns) :
        '"' ∉ column.1.toList ∧ column.2.Plain := by
      obtain ⟨source, among, declared⟩ := Traversal.exists_of_mem_right declares.columns mem
      obtain ⟨type, -, rfl⟩ := eq_of_declaration declared
      exact ⟨plain.columns source among, plain.definition among type⟩
    have clauses (clause : KeyClause) (mem : clause ∈ creation.clauses) : clause.Plain := by
      constructor
      · intro name named
        obtain ⟨index, indexed, same⟩ := declares.index_of_constraint mem named
        exact plain.constraints index indexed name same
      · rcases List.mem_append.1 mem with primary | unique
        · exact plain.source (declares.source (Option.mem_toList.1 primary)).1
        · rw [declares.uniques] at unique
          exact plain.uniqueClauses unique
    intro part mem
    rcases List.mem_append.1 mem with declared | key
    · obtain ⟨column, among, rfl⟩ := List.mem_map.1 declared
      exact columns column among
    · obtain ⟨clause, among, rfl⟩ := List.mem_map.1 key
      exact clauses clause among
  inPlace := declares.keysInPlace

/-- Columns that are declared by the same text are declared as each other. -/
theorem declaredAs_of_declaration {column other : Column} {declared : String × ColumnDefinition}
    (first : declaration column = .ok declared) (second : declaration other = .ok declared) :
    column.DeclaredAs other := by
  obtain ⟨type, known, rfl⟩ := eq_of_declaration first
  obtain ⟨type', known', same⟩ := eq_of_declaration second
  obtain ⟨name, definitions⟩ := Prod.mk.inj same
  have spelled : column.spellingOf type = other.spellingOf type' :=
    congrArg ColumnDefinition.spelling definitions
  obtain rfl : type = type' := by
    rw [← column.type_spellingOf type, spelled, Column.type_spellingOf]
  refine ⟨name, ⟨type, known, known', spelled, ?_⟩,
    congrArg ColumnDefinition.nullable definitions, congrArg ColumnDefinition.comment definitions⟩
  intro counts
  have identities := congrArg ColumnDefinition.identity definitions
  simpa only [Column.definitionOf, if_pos counts] using identities

/-- Tables that are created by the same text are the same, as far as the text shows them. -/
theorem created_text_tells_the_table {creation creation' : Creation} (plain : table.Plain)
    (plain' : other.Plain) (created : table.creation = .ok creation)
    (created' : other.creation = .ok creation') (same : creation.render = creation'.render) :
    table.name = other.name ∧
      List.Forall₂ Column.DeclaredAs table.effectiveColumns other.effectiveColumns ∧
      table.primaryKeyClause = other.primaryKeyClause ∧
      table.uniqueClauses = other.uniqueClauses ∧
      table.options.comment = other.options.comment := by
  have declares := creation_eq_ok.1 created
  have declares' := creation_eq_ok.1 created'
  obtain rfl := Creation.eq_of_render (declares.plain plain) (declares'.plain plain') same
  have columns : List.Forall₂ Column.DeclaredAs table.effectiveColumns other.effectiveColumns :=
    Traversal.forall₂_of_common declares.columns declares'.columns fun _ _ _ =>
      declaredAs_of_declaration
  exact ⟨declares.name.symm.trans declares'.name, columns,
    declares.primaryKey.trans declares'.primaryKey.symm,
    declares.uniques.symm.trans declares'.uniques, declares.comment.symm.trans declares'.comment⟩

/-- Two tables are created by the same text: in one a property asks for the key and a scale without
precision is declared, in the other an option names the key. -/
theorem created_text_tells_the_table_at_flagged_column :
    let price := (Column.declare "price" "number").withComment "it's, \"net\") null"
    let flagged : Table := ⟨"items", ⟨.disabled, [], ["price"], some "'"⟩,
      [(price.withScale 2).withProperty "primary key"], []⟩
    let chosen : Table := ⟨"items", ⟨.disabled, ["price"], [], some "'"⟩, [price],
      [.unnamed .unique ["price"]]⟩
    List.Forall₂ Column.DeclaredAs flagged.effectiveColumns chosen.effectiveColumns ∧
      flagged.primaryKeyClause = chosen.primaryKeyClause ∧
      flagged.uniqueClauses = chosen.uniqueClauses := by
  intro price flagged chosen
  let declared := (price.withScale 2).withProperty "primary key"
  let creation : Creation := ⟨"items", [("price", price.definitionOf .number)],
    some ⟨none, .primary, ["price"]⟩, [⟨none, .unique, ["price"]⟩], some "'"⟩
  have priceType : price.type = .ok .number := DataType.resolveZoned_keyword .number
  have declaredType : declared.type = .ok .number := DataType.resolveZoned_keyword .number
  have same : declared.definitionOf .number = price.definitionOf .number := by decide +kernel
  have flaggedKey : flagged.primaryKeyClause = .ok creation.primaryKey := by rfl
  have flaggedCreated : flagged.creation = .ok creation := by
    refine creation_eq_ok.2 ⟨rfl, rfl, .cons ?_ .nil, flaggedKey, rfl, rfl⟩
    rw [declaration_of_type declaredType, same]
    rfl
  have chosenCreated : chosen.creation = .ok creation :=
    creation_eq_ok.2 ⟨rfl, rfl, .cons (declaration_of_type priceType) .nil, rfl, rfl, rfl⟩
  have flaggedPlain : flagged.Plain := by
    constructor <;> decide +kernel
  have chosenPlain : chosen.Plain := by
    constructor <;> decide +kernel
  obtain ⟨-, columns, key, uniques, -⟩ := created_text_tells_the_table flaggedPlain chosenPlain
    flaggedCreated chosenCreated rfl
  exact ⟨columns, key, uniques⟩

end Table

end WarehouseSchema
