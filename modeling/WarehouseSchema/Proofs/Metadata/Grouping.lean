import WarehouseSchema.Proofs.Metadata.Keys
import WarehouseSchema.Proofs.Metadata.Rows

/-!
# Keys tell of every row and of nothing else

The rows of an answer about keys come in any order, those of one constraint among those of another,
and a place may be missing or claimed twice. What is read of them keeps the order of the rows
wherever the places do not decide: constraints stand in the order in which they are first named, and
columns with the same place in the order of their rows.

## What is proved

`keysOf_groups_rows`: rows are refused exactly where one of them names no column, and otherwise the
constraints are as `Groups` says. A list of rows in order of their places is `InOrder`.
-/

set_option autoImplicit false

namespace WarehouseSchema.Metadata

/-- The rows in order of their places: each row once, the places never decreasing, and rows with the
same place in the order in which they came. -/
structure InOrder (rows listing : List Row) : Prop where
  each : listing.Perm rows
  places : listing.Pairwise fun first second => sequenceOf first ≤ sequenceOf second
  stable : ∀ place, (listing.filter fun row => sequenceOf row = place) =
    rows.filter fun row => sequenceOf row = place

namespace KeyFields

variable {fields : KeyFields} {rows : List Row}

/-- The constraints are those that the rows name, in order of first appearance, and each has the
columns of its rows in order of their places. -/
structure Groups (fields : KeyFields) (rows : List Row) (keys : KeyGroups String) : Prop where
  names : keys.map (·.1) = (rows.map fields.constraintOf).eraseDups
  columns : ∀ key ∈ keys, ∃ listing, InOrder (fields.rowsOf key.1 rows) listing ∧
    listing.map (·.text? fields.column) = key.2.map some

/-- Rows with the same place are never put past each other: they are in order as they are, and what
is in order is kept by the sort. -/
theorem filter_listing (name : String) (rows : List Row) (place : Int64) :
    ((fields.listing name rows).filter fun row => sequenceOf row = place) =
      (fields.rowsOf name rows).filter fun row => sequenceOf row = place := by
  have level : ((fields.rowsOf name rows).filter fun row => sequenceOf row = place).Pairwise
      fun first second => decide (sequenceOf first ≤ sequenceOf second) = true := by
    refine List.pairwise_of_forall_mem_list fun first among second amongToo => ?_
    have here := of_decide_eq_true (List.mem_filter.1 among).2
    have hereToo := of_decide_eq_true (List.mem_filter.1 amongToo).2
    rw [here, hereToo]
    exact decide_eq_true (Int64.le_refl place)
  have kept := (List.sublist_mergeSort sequence_trans sequence_total level
    List.filter_sublist).filter fun row => decide (sequenceOf row = place)
  rw [List.filter_filter] at kept
  simp only [Bool.and_self] at kept
  exact (kept.eq_of_length ((listing_perm name rows).filter _).length_eq.symm).symm

theorem inOrder_listing (name : String) (rows : List Row) :
    InOrder (fields.rowsOf name rows) (fields.listing name rows) :=
  ⟨listing_perm name rows, listing_ordered name rows, filter_listing name rows⟩

theorem groups_of_keysOf (named : fields.Named rows) {keys : KeyGroups String}
    (told : keysOf fields.constraint fields.column rows = .ok keys) : fields.Groups rows keys where
  names := by
    cases (keysOf_of_named named).symm.trans told
    rw [List.map_map]
    refine (KeyGroups.names_collect (rows.map fields.entryOf)).trans ?_
    rw [List.map_map]
    rfl
  columns := by
    rintro ⟨name, columns⟩ mem
    obtain ⟨-, sorted⟩ := (mem_keysOf named told).1 mem
    refine ⟨fields.listing name rows, inOrder_listing name rows, ?_⟩
    rw [map_text?_listing named name, sorted]

/-- Rows are refused exactly where one of them has no column or null in its place, and otherwise
they are grouped under the names of their constraints. -/
theorem keysOf_groups_rows (fields : KeyFields) (rows : List Row) :
    ((∃ refusal, keysOf fields.constraint fields.column rows = .error refusal) ↔
        ∃ row ∈ rows, row.get? fields.column = none ∨ row.get? fields.column = some .null) ∧
      (fields.Named rows → ∃ keys, keysOf fields.constraint fields.column rows = .ok keys ∧
        fields.Groups rows keys) := by
  simp only [← Row.text?_eq_none_iff]
  refine ⟨⟨?_, ?_⟩, ?_⟩
  · rintro ⟨refusal, refused⟩
    -- If every row named a column, all of them would be grouped.
    refine by_contra fun absent => ?_
    have named : fields.Named rows := fun row mem unnamed => absent ⟨row, mem, unnamed⟩
    cases (keysOf_of_named named).symm.trans refused
  · rintro ⟨row, mem, unnamed⟩
    exact ⟨_, keysOf_of_unnamed mem unnamed⟩
  · intro named
    exact ⟨_, keysOf_of_named named, groups_of_keysOf named (keysOf_of_named named)⟩

/-- One of two constraints has no name. Its rows stand around the row of the other, two of them have
no place that can be read, and the last one has the first place. -/
theorem keysOf_groups_rows_at_nameless_constraint :
    let fields : KeyFields := ⟨"constraint_name", "column_name"⟩
    let rows : List Row :=
      [.ofFields [("column_name", .string "zip")],
       .ofFields [("constraint_name", .string "by_code"), ("column_name", .string "code")],
       .ofFields [("constraint_name", .null), ("column_name", .string "city"),
         ("key_sequence", .string "first")],
       .ofFields [("column_name", .ofInt 7), ("key_sequence", .ofInt (-1))]]
    let keys := [("", ["7", "zip", "city"]), ("by_code", ["code"])]
    fields.Named rows ∧ keysOf fields.constraint fields.column rows = .ok keys ∧
      fields.Groups rows keys := by
  intro fields rows keys
  have named : fields.Named rows := by decide +kernel
  have collected : KeyGroups.collect (rows.map fields.entryOf) =
      [("", [⟨0, "zip"⟩, ⟨0, "city"⟩, ⟨-1, "7"⟩]), ("by_code", [⟨0, "code"⟩])] := by
    decide +kernel
  have told : keysOf fields.constraint fields.column rows = .ok keys := by
    rw [keysOf_of_named named, collected]
    simp [keys, inSequence, List.mergeSort]
  obtain ⟨_, toldToo, groups⟩ := (keysOf_groups_rows fields rows).2 named
  cases told.symm.trans toldToo
  exact ⟨named, told, groups⟩

end KeyFields

end WarehouseSchema.Metadata
