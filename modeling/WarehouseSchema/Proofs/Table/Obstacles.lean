import WarehouseSchema.Proofs.Table.Declaration

/-!
# What stands in the way of creating a table

A table cannot be created where an index is of a kind that no key can be, where a declared column is
of unknown type, or where the lists of key columns differ. A table may have any number of these at
once. They are looked for in this order, and the first of the first sort is what is reported. The
column that numbers the rows is none of them, since its type is known.

## What is proved

`creation_fails_as_first_obstacle`: a table is refused with an error exactly where that error
reports its first obstacle, and it can be created exactly where it has none.

`Obstacle` says what the first obstacle of a table is without asking for the statement. Each of its
cases splits a list at the first item that is wrong and says that the items before it are not.
-/

set_option autoImplicit false

namespace WarehouseSchema.Table

variable {table : Table}

/-- Every index is of a kind that a key can be. -/
def KindsSupported (table : Table) : Prop :=
  ∀ index ∈ table.indexes, ¬ ∃ name, index.kind = .other name

/-- Every declared column is of a known type. -/
def TypesKnown (table : Table) : Prop :=
  ∀ column ∈ table.columns, ∃ type, column.type = .ok type

/-- The error that reports the first obstacle of a table. -/
inductive Obstacle (table : Table) : SchemaError → Prop where
  | kind {before after : List Index} {index : Index} {name : String}
      (split : table.indexes = before ++ index :: after)
      (earlier : ∀ other ∈ before, ¬ ∃ name, other.kind = .other name)
      (unsupported : index.kind = .other name) :
      Obstacle table (.unsupportedIndex name)
  | type {before after : List Column} {column : Column}
      (supported : table.KindsSupported)
      (split : table.columns = before ++ column :: after)
      (earlier : ∀ other ∈ before, ∃ type, other.type = .ok type)
      (unknown : ¬ ∃ type, column.type = .ok type) :
      Obstacle table (.unknownType ⟨column.typeName⟩)
  /-- The first list that is not the first of all is reported together with it. -/
  | keys {first other : List String} {between after : List (List String)}
      (supported : table.KindsSupported) (known : table.TypesKnown)
      (lists : table.explicitKeys = first :: (between ++ other :: after))
      (same : ∀ columns ∈ between, columns = first) (differs : other ≠ first) :
      Obstacle table (.invalidArgument (.conflictingKeys table.name first other))

/-! ## Kinds of indexes -/

/-- No kind is refused where every index is of a kind that a table can have. -/
theorem unsupportedKind?_eq_none : table.unsupportedKind? = none ↔ table.KindsSupported := by
  rw [unsupportedKind?, List.findSome?_eq_none_iff]
  refine forall₂_congr fun index _ => ?_
  cases index.kind <;> simp

/-- The kind that is refused is that of the first index that no table can have. -/
theorem unsupportedKind?_eq_some {name : String} :
    table.unsupportedKind? = some name ↔ ∃ before index after,
      table.indexes = before ++ index :: after ∧
        (∀ other ∈ before, ¬ ∃ name, other.kind = .other name) ∧ index.kind = .other name := by
  rw [unsupportedKind?, List.findSome?_eq_some_iff]
  refine exists₃_congr fun before index after => and_congr_right fun _ => ?_
  rw [and_comm]
  refine and_congr (forall₂_congr fun other _ => ?_) ?_
  · cases other.kind <;> simp
  · cases index.kind <;> simp

/-! ## Types of columns -/

/-- A column cannot be declared where its type is unknown, and it is reported by the name of the
type that it declares. -/
theorem declaration_eq_error_iff {column : Column} {e : SchemaError} :
    declaration column = .error e ↔
      (¬ ∃ type, column.type = .ok type) ∧ e = .unknownType ⟨column.typeName⟩ := by
  rw [declaration, Column.definition, ← Column.dataType_eq_error_iff]
  cases column.dataType <;> simp [Except.map]

/-- A column can be declared exactly where its type is known. -/
theorem exists_declaration_iff {column : Column} :
    (∃ declared, declaration column = .ok declared) ↔ ∃ type, column.type = .ok type := by
  constructor
  · rintro ⟨declared, declares⟩
    by_contra unknown
    cases declares.symm.trans (declaration_eq_error_iff.2 ⟨unknown, rfl⟩)
  · rintro ⟨type, known⟩
    exact ⟨_, declaration_of_type known⟩

/-- Columns cannot be declared for the first of them whose type is unknown. -/
theorem mapM_declaration_eq_error {e : SchemaError} :
    table.columns.mapM declaration = .error e ↔ ∃ before column after,
      table.columns = before ++ column :: after ∧
        (∀ other ∈ before, ∃ type, other.type = .ok type) ∧
          (¬ ∃ type, column.type = .ok type) ∧ e = .unknownType ⟨column.typeName⟩ := by
  simp only [Traversal.mapM_eq_error, exists_declaration_iff, declaration_eq_error_iff]

/-- Columns can be declared exactly where all their types are known. -/
theorem exists_mapM_declaration_iff :
    (∃ declared, table.columns.mapM declaration = .ok declared) ↔ table.TypesKnown := by
  simp only [Traversal.exists_mapM_eq_ok, exists_declaration_iff, TypesKnown]

/-! ## The table as a whole -/

/-- Keys that differ are reported by the name of the table and both lists. -/
theorem message_conflictingKeys (name : String) (first other : List String) :
    (SchemaError.invalidArgument (.conflictingKeys name first other)).message =
      "invalid argument: table '" ++ name ++ "' declares conflicting primary keys (" ++
        ", ".intercalate first ++ ") and (" ++ ", ".intercalate other ++ ")" := by
  show "invalid argument: " ++ ("table '" ++ name ++ "' declares conflicting primary keys (" ++
    ", ".intercalate first ++ ") and (" ++ ", ".intercalate other ++ ")") = _
  have opening : "invalid argument: table '" = "invalid argument: " ++ "table '" := by decide
  rw [opening]
  simp only [String.append_assoc]

/-- A table is refused for its first obstacle, and for nothing else. -/
theorem creation_eq_error_iff_obstacle {e : SchemaError} :
    table.creation = .error e ↔ table.Obstacle e := by
  rw [creation_eq_error_iff, unsupportedKind?_eq_none, mapM_declaration_eq_error,
    exists_mapM_declaration_iff, primaryKeyClause_eq_error]
  constructor
  · rintro (⟨kind, found, rfl⟩ | ⟨supported, columns | keys⟩)
    · obtain ⟨before, index, after, split, earlier, unsupported⟩ :=
        unsupportedKind?_eq_some.1 found
      exact .kind split earlier unsupported
    · obtain ⟨before, column, after, split, earlier, unknown, rfl⟩ := columns
      exact .type supported split earlier unknown
    · obtain ⟨known, first, between, other, after, lists, same, differs, rfl⟩ := keys
      exact .keys supported known lists same differs
  · intro obstacle
    cases obstacle with
    | kind split earlier unsupported =>
      exact .inl ⟨_, unsupportedKind?_eq_some.2 ⟨_, _, _, split, earlier, unsupported⟩, rfl⟩
    | type supported split earlier unknown =>
      exact .inr ⟨supported, .inl ⟨_, _, _, split, earlier, unknown, rfl⟩⟩
    | keys supported known lists same differs =>
      exact .inr ⟨supported, .inr ⟨known, _, _, _, _, lists, same, differs, rfl⟩⟩

/-- A table without a wrong index, a wrong column and differing keys has no obstacle. -/
theorem Obstacle.not_clear {e : SchemaError} (obstacle : table.Obstacle e) :
    ¬ (table.KindsSupported ∧ table.TypesKnown ∧ table.KeysAgree) := by
  rintro ⟨supported, known, agree⟩
  cases obstacle with
  | @kind before after index name split _ unsupported =>
    exact supported index (split ▸ List.mem_append_right _ List.mem_cons_self) ⟨name, unsupported⟩
  | @type before after column _ split _ unknown =>
    exact unknown (known column (split ▸ List.mem_append_right _ List.mem_cons_self))
  | @keys first other between after _ _ lists _ differs =>
    have head : first ∈ table.explicitKeys := lists ▸ List.mem_cons_self
    have later : other ∈ table.explicitKeys :=
      lists ▸ List.mem_cons_of_mem _ (List.mem_append_right _ List.mem_cons_self)
    exact differs (agree other later first head)

/-- A table that is created had no obstacle. -/
theorem Declares.clear {creation : Creation} (declares : table.Declares creation) :
    table.KindsSupported ∧ table.TypesKnown ∧ table.KeysAgree := by
  refine ⟨unsupportedKind?_eq_none.1 declares.supported, ?_,
    (primaryKeyClause_eq_ok declares.primaryKey).1⟩
  intro column mem
  have declared := Traversal.exists_mapM_eq_ok.1 ⟨_, Traversal.mapM_eq_ok.2 declares.columns⟩
  exact exists_declaration_iff.1 (declared column (List.mem_append_right _ mem))

/-- A table with all three is refused for its index. -/
example :
    (Table.mk "orders" ⟨.implicit, ["code"], [], none⟩ [.declare "price" "money"]
      [.unnamed .primaryKey ["price"], .unnamed (.other "spatial") ["code"]]).creation =
        .error (.unsupportedIndex "spatial") := rfl

end WarehouseSchema.Table
