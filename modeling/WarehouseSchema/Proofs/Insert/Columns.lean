import Mathlib.Data.List.Perm.Subperm
import WarehouseSchema.Insert
import WarehouseSchema.Proofs.Json.Record

/-!
# The columns of rows that are inserted together

Rows are inserted together where they have the same columns. A row keeps its columns in the order of
their names, so that rows with the same columns have them in the same order, and the values in the
order of the columns are the values of each row as it holds them: none is missing, and no null
stands in for one.

## What is proved

`sharedColumns_eq_ok` says which rows are accepted, `inPlace_eq_ok` what their statement is, and
`valuesOf_names` what values it has. `sharedColumns_eq_error` says why rows are refused: the first
one has no column, or there is a first one that has other columns.
-/

set_option autoImplicit false

namespace WarehouseSchema

namespace Row

theorem ordered_names (row : Row) : row.names.Pairwise (· < ·) := List.pairwise_map.2 row.ordered

theorem mem_names {row : Row} {name : String} : name ∈ row.names ↔ row.contains name = true := by
  rw [contains, get?, Option.isSome_iff_exists, names, List.mem_map]
  constructor
  · rintro ⟨⟨_, value⟩, mem, rfl⟩
    exact ⟨value, (Json.member?_eq_some_iff (Json.nodup_names row.ordered)).2 mem⟩
  · rintro ⟨value, found⟩
    exact ⟨_, (Json.member?_eq_some_iff (Json.nodup_names row.ordered)).1 found, rfl⟩

/-- The order of a row's columns is that of their names, so it tells nothing of its own. -/
theorem names_eq_of_perm {row other : Row} (perm : row.names.Perm other.names) :
    row.names = other.names :=
  perm.eq_of_pairwise (fun _ _ _ _ less more => absurd more (String.lt_asymm less))
    row.ordered_names other.ordered_names

/-- Two rows have the same columns. -/
def SameColumns (row other : Row) : Prop := ∀ name, row.contains name = other.contains name

theorem sameColumns_iff {row other : Row} : row.SameColumns other ↔ row.names = other.names := by
  constructor
  · intro same
    have mem (name : String) : name ∈ row.names ↔ name ∈ other.names := by
      rw [mem_names, mem_names, same name]
    exact names_eq_of_perm ((List.perm_ext_iff_of_nodup (Json.nodup_names row.ordered)
      (Json.nodup_names other.ordered)).2 mem)
  · intro same name
    rw [Bool.eq_iff_iff, ← mem_names, ← mem_names, same]

/-- Each field of a row is what its name leads to. -/
theorem get?_of_mem {row : Row} {field : String × Json} (mem : field ∈ row.fields) :
    row.get? field.1 = some field.2 :=
  (Json.member?_eq_some_iff (Json.nodup_names row.ordered)).2 mem

end Row

namespace Insert

/-- A row that has exactly the columns of another one has them in the same order. -/
theorem hasColumns_names {row other : Row} :
    hasColumns other.names row = true ↔ row.names = other.names := by
  have length (row : Row) : row.fields.length = row.names.length := (List.length_map _).symm
  rw [hasColumns, Bool.and_eq_true, beq_iff_eq, List.all_eq_true, length]
  constructor
  · rintro ⟨sized, all⟩
    have among : other.names ⊆ row.names := fun name mem => Row.mem_names.2 (all name mem)
    have perm : other.names.Perm row.names :=
      (List.subperm_of_subset (Json.nodup_names other.ordered) among).perm_of_length_le
        (Nat.le_of_eq sized)
    exact (Row.names_eq_of_perm perm).symm
  · intro same
    rw [same]
    exact ⟨rfl, fun name mem => Row.mem_names.1 (same ▸ mem)⟩

/-- The values of a row in the order of its own columns are its values. -/
theorem valuesOf_names (row : Row) : valuesOf row.names row = row.fields.map Prod.snd := by
  rw [valuesOf, Row.names, List.map_map]
  refine List.map_congr_left fun field mem => ?_
  rw [Function.comp, Row.get?_of_mem mem]
  rfl

/-- Rows are accepted where the first one has a column and all others have its columns. -/
theorem sharedColumns_eq_ok {table : String} {first : Row} {others : List Row}
    {columns : List String} :
    sharedColumns table (first :: others) = .ok columns ↔
      columns = first.names ∧ columns ≠ [] ∧ ∀ row ∈ others, row.names = columns := by
  unfold sharedColumns
  dsimp only
  cases empty : first.names.isEmpty with
  | true =>
    rw [if_pos rfl]
    constructor
    · intro refused
      cases refused
    · rintro ⟨rfl, nonempty, -⟩
      exact absurd (List.isEmpty_iff.1 empty) nonempty
  | false =>
    rw [if_neg Bool.false_ne_true]
    have nonempty : first.names ≠ [] := List.isEmpty_eq_false_iff.1 empty
    -- The search is for the row that is named in the refusal; that it fails is the condition.
    have alike : (others.findIdx? fun row => !hasColumns first.names row) = none ↔
        ∀ row ∈ others, row.names = first.names := by
      rw [List.findIdx?_eq_none_iff]
      simp only [Bool.not_eq_false', hasColumns_names]
    cases uneven : others.findIdx? fun row => !hasColumns first.names row with
    | some index =>
      constructor
      · intro refused
        cases refused
      · rintro ⟨rfl, -, same⟩
        cases uneven.symm.trans (alike.2 same)
    | none =>
      constructor
      · intro accepted
        cases accepted
        exact ⟨rfl, nonempty, alike.1 uneven⟩
      · rintro ⟨rfl, -, -⟩
        rfl

/-- Why rows are not inserted together: the first one has no column, or there is a first one among
them that has other columns. -/
inductive Refused (table : String) : List Row → ArgumentFault → Prop where
  | noColumn {first : Row} {others : List Row} (none : first.names = []) :
    Refused table (first :: others) (.emptyRow table)
  | uneven {first row : Row} {others : List Row} {index : Nat} (some : first.names ≠ [])
    (found : (first :: others)[index]? = .some row) (apart : ¬ row.SameColumns first)
    (earlier : ∀ i < index, ∀ before, (first :: others)[i]? = .some before →
      before.SameColumns first) :
    Refused table (first :: others) (.unevenRow table index)

/-- Where the search for a row with other columns than the first one ends. -/
theorem findIdx?_uneven {first : Row} {others : List Row} {index : Nat} :
    (others.findIdx? fun row => !hasColumns first.names row) = some index ↔
      (∃ row, (first :: others)[index + 1]? = some row ∧ ¬ row.SameColumns first) ∧
        ∀ i < index + 1, ∀ before, (first :: others)[i]? = some before →
          before.SameColumns first := by
  simp only [List.findIdx?_eq_some_iff_getElem, Bool.not_eq_true', ← Bool.not_eq_true,
    Classical.not_not, hasColumns_names, ← Row.sameColumns_iff]
  constructor
  · rintro ⟨bound, uneven, earlier⟩
    refine ⟨⟨_, List.getElem?_eq_some_iff.2 ⟨Nat.succ_lt_succ bound, rfl⟩, uneven⟩, ?_⟩
    rintro i less before found
    cases i with
    | zero =>
      cases found
      exact fun _ => rfl
    | succ i =>
      obtain ⟨_, rfl⟩ := List.getElem?_eq_some_iff.1 found
      exact earlier i (Nat.lt_of_succ_lt_succ less)
  · rintro ⟨⟨row, found, uneven⟩, earlier⟩
    obtain ⟨bound, rfl⟩ := List.getElem?_eq_some_iff.1 found
    have within : index < others.length := Nat.lt_of_succ_lt_succ bound
    refine ⟨within, uneven, fun i less => ?_⟩
    have reached : i < others.length := Nat.lt_trans less within
    exact earlier (i + 1) (Nat.succ_lt_succ less) _
      (List.getElem?_eq_some_iff.2 ⟨Nat.succ_lt_succ reached, rfl⟩)

/-- Rows are refused for the reasons that there are, and the row that is named is the first one that
has other columns. -/
theorem sharedColumns_eq_error {table : String} {rows : List Row} {e : SchemaError} :
    sharedColumns table rows = .error e ↔
      ∃ fault, Refused table rows fault ∧ e = .invalidArgument fault := by
  constructor
  · intro refused
    cases rows with
    | nil => cases refused
    | cons first others =>
      unfold sharedColumns at refused
      dsimp only at refused
      split at refused
      · rename_i empty
        cases refused
        exact ⟨_, .noColumn (List.isEmpty_iff.1 empty), rfl⟩
      · rename_i nonempty
        split at refused
        · rename_i index uneven
          cases refused
          obtain ⟨⟨row, found, apart⟩, earlier⟩ := findIdx?_uneven.1 uneven
          exact ⟨_, .uneven (mt List.isEmpty_iff.2 nonempty) found apart earlier, rfl⟩
        · cases refused
  · rintro ⟨fault, refused, rfl⟩
    cases refused with
    | noColumn none =>
      rw [sharedColumns, none]
      rfl
    | @uneven first row others index some found apart earlier =>
      cases index with
      -- The first row has its own columns.
      | zero =>
        cases found
        exact absurd (fun _ => rfl) apart
      | succ index =>
        have uneven := findIdx?_uneven.2 ⟨⟨row, found, apart⟩, earlier⟩
        rw [sharedColumns, if_neg (mt List.isEmpty_iff.1 some), uneven]

/-- The statement with the values of accepted rows in place shows them as the rows hold them. -/
theorem inPlace_eq_ok {table : String} {first : Row} {others : List Row} {answer : Option String}
    (accepted : inPlace table (first :: others) = .ok answer) :
    (∀ row ∈ others, row.names = first.names) ∧
      answer = some (opening table first.names ++
        ", ".intercalate ((first :: others).map fun row =>
          group (row.fields.map fun field => literal field.2)) ++ ";") := by
  unfold inPlace at accepted
  cases shared : sharedColumns table (first :: others) with
  | error e =>
    rw [shared] at accepted
    cases accepted
  | ok columns =>
    obtain ⟨rfl, nonempty, alike⟩ := sharedColumns_eq_ok.1 shared
    rw [shared] at accepted
    have shown (row : Row) (mem : row ∈ first :: others) :
        group ((valuesOf first.names row).map literal) =
          group (row.fields.map fun field => literal field.2) := by
      have names : row.names = first.names := by
        rcases List.mem_cons.1 mem with rfl | mem
        · rfl
        · exact alike row mem
      rw [← names, valuesOf_names, List.map_map]
      rfl
    refine ⟨alike, (Except.ok.inj accepted).symm.trans ?_⟩
    dsimp only
    rw [if_neg (mt List.isEmpty_iff.1 nonempty), List.map_congr_left shown]

end Insert

end WarehouseSchema
