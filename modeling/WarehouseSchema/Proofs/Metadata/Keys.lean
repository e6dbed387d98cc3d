import Mathlib.Data.List.Induction
import Mathlib.Data.List.Nodup
import WarehouseSchema.Metadata.Keys
import WarehouseSchema.Proofs.Json.Record
import WarehouseSchema.Proofs.Traversal

/-!
# Keys from rows in any order

The warehouse may report the columns of its keys in any order, those of one constraint among those
of another. Each row says which constraint it belongs to and which place its column has there, and
that is all that the answer to a question about keys depends on, as long as no two rows of a
constraint claim the same place.

## What is proved

`KeyGroups.mem_collect` says what a group holds: the items of its name, in the order in which they
came. `mem_keysOf` says it of the constraints that rows tell of, and `listed_iff` that the columns
of a constraint are those of its rows in increasing order of their places.

`KeySearch.finds_iff` puts a search among constraints in terms of the rows alone, where their order
plays no part (`KeySearch.AmongRows.perm`).
-/

set_option autoImplicit false

namespace WarehouseSchema.Metadata

/-! ## Groups -/

namespace KeyGroups

variable {α : Type}

/-- The groups of named items, in the order of first appearance. -/
def collect (entries : List (String × α)) : KeyGroups α :=
  entries.foldl (fun groups (name, item) => KeyGroups.add name item groups) []

/-- The items of a name, in the order in which they came. -/
def itemsOf (name : String) (entries : List (String × α)) : List α :=
  (entries.filter fun entry => entry.1 = name).map (·.2)

/-- The last entry is added to what the entries before it were collected to. -/
theorem collect_concat (entries : List (String × α)) (name : String) (item : α) :
    collect (entries ++ [(name, item)]) = KeyGroups.add name item (collect entries) :=
  List.foldl_concat ..

/-- The last entry adds its item under its own name and nowhere else. -/
theorem itemsOf_concat (wanted : String) (entries : List (String × α)) (name : String) (item : α) :
    itemsOf wanted (entries ++ [(name, item)]) =
      itemsOf wanted entries ++ if wanted = name then [item] else [] := by
  by_cases same : wanted = name
  · simp [itemsOf, same]
  · simp [itemsOf, same, Ne.symm same]

/-- The groups stand in the order in which their names first appear. -/
theorem names_collect (entries : List (String × α)) :
    (collect entries).map (·.1) = (entries.map (·.1)).eraseDups :=
  Traversal.keys_foldl (List.map (·.1)) (·.1)
    (fun groups entry => names_add entry.1 entry.2 groups) rfl entries

/-- Each name stands once, however often it was entered. -/
theorem nodup_names_collect (entries : List (String × α)) :
    ((collect entries).map (·.1)).Nodup := by
  rw [names_collect]
  exact Traversal.nodup_eraseDups _

/-- A name leads to its items, and a name without items leads to no group. -/
theorem lookup_collect (wanted : String) (entries : List (String × α)) :
    (collect entries).lookup wanted =
      if itemsOf wanted entries = [] then none else some (itemsOf wanted entries) := by
  induction entries using List.reverseRecOn with
  | nil => rfl
  | append_singleton entries entry ih =>
    obtain ⟨name, item⟩ := entry
    rw [collect_concat, lookup_add, itemsOf_concat]
    by_cases same : wanted = name
    · subst same
      rw [if_pos rfl, if_pos rfl, ih, if_neg (List.concat_ne_nil _ _)]
      by_cases empty : itemsOf wanted entries = []
      · rw [if_pos empty, empty]
        rfl
      · rw [if_neg empty]
        rfl
    · rw [if_neg same, if_neg same, ih, List.append_nil]

/-- A group holds the items of its name, and there is one for each name that has items. -/
theorem mem_collect {entries : List (String × α)} {name : String} {items : List α} :
    (name, items) ∈ collect entries ↔
      itemsOf name entries ≠ [] ∧ items = itemsOf name entries := by
  rw [← Json.member?_eq_some_iff (nodup_names_collect entries), Json.member?, lookup_collect]
  by_cases empty : itemsOf name entries = []
  · rw [if_pos empty]
    constructor
    · intro found
      cases found
    · rintro ⟨nonempty, -⟩
      exact absurd empty nonempty
  · rw [if_neg empty, Option.some.injEq]
    constructor
    · rintro rfl
      exact ⟨empty, rfl⟩
    · rintro ⟨-, rfl⟩
      rfl

end KeyGroups

/-! ## Constraints -/

/-- The fields in which the rows of an answer name a constraint and a column of it. -/
structure KeyFields where
  constraint : String
  column : String

namespace KeyFields

variable (fields : KeyFields)

/-- The name of the constraint that a row belongs to. -/
def constraintOf (row : Row) : String := (row.text? fields.constraint).getD ""

/-- The rows that belong to a constraint. -/
def rowsOf (name : String) (rows : List Row) : List Row :=
  rows.filter fun row => fields.constraintOf row = name

/-- No two rows of a constraint have the same place; a row that gives none has the place zero. -/
def Sequenced (rows : List Row) : Prop :=
  rows.Pairwise fun first second =>
    fields.constraintOf first = fields.constraintOf second → sequenceOf first ≠ sequenceOf second

instance (rows : List Row) : Decidable (fields.Sequenced rows) :=
  inferInstanceAs (Decidable (List.Pairwise _ rows))

/-- Every row names its column. -/
def Named (rows : List Row) : Prop := ∀ row ∈ rows, row.text? fields.column ≠ none

instance (rows : List Row) : Decidable (fields.Named rows) :=
  inferInstanceAs (Decidable (∀ row ∈ rows, _))

/-- The rows of a constraint, put in increasing order of their places, name these columns. -/
def Listed (rows : List Row) (name : String) (columns : List String) : Prop :=
  ∃ listing : List Row, listing.Perm (fields.rowsOf name rows) ∧
    listing.Pairwise (fun first second => sequenceOf first < sequenceOf second) ∧
    listing.map (·.text? fields.column) = columns.map some

variable {fields} {rows : List Row}

/-- Rows keep their places in another order. -/
theorem Sequenced.perm (sequenced : fields.Sequenced rows) {others : List Row}
    (shuffled : rows.Perm others) : fields.Sequenced others :=
  List.Perm.pairwise shuffled sequenced fun apart same => (apart same.symm).symm

/-- What is read of a row that names its column. -/
def entryOf (fields : KeyFields) (row : Row) : String × KeyColumn :=
  (fields.constraintOf row, ⟨sequenceOf row, (row.text? fields.column).getD ""⟩)

/-- A row that names a column is read with whatever else it says. -/
theorem keyColumnOf_of_named {row : Row} (named : row.text? fields.column ≠ none) :
    keyColumnOf fields.constraint fields.column row = .ok (fields.entryOf row) := by
  obtain ⟨column, names⟩ := Option.ne_none_iff_exists'.1 named
  rw [keyColumnOf, entryOf, names]
  rfl

/-- A row without a column is refused for it. -/
theorem keyColumnOf_of_unnamed {row : Row} (unnamed : row.text? fields.column = none) :
    keyColumnOf fields.constraint fields.column row =
      .error (.metadata (.keyColumnMissing fields.column)) := by
  rw [keyColumnOf, unnamed]

/-- A row that names no column is why rows tell of no keys, whatever the other rows are. -/
theorem keysOf_of_unnamed {row : Row} (mem : row ∈ rows)
    (unnamed : row.text? fields.column = none) :
    keysOf fields.constraint fields.column rows =
      .error (.metadata (.keyColumnMissing fields.column)) := by
  unfold keysOf
  cases read : rows.mapM (keyColumnOf fields.constraint fields.column) with
  | ok entries =>
    obtain ⟨entry, -, reads⟩ := Traversal.exists_of_mem_right (Traversal.mapM_eq_ok.1 read).flip mem
    cases (keyColumnOf_of_unnamed unnamed).symm.trans reads
  | error e =>
    obtain ⟨other, -, fails⟩ := Traversal.error_of_mapM read
    by_cases named : other.text? fields.column = none
    · cases (keyColumnOf_of_unnamed named).symm.trans fails
      rfl
    · cases (keyColumnOf_of_named named).symm.trans fails

/-- Rows that all name a column are collected under their constraints, each of them in sequence. -/
theorem keysOf_of_named (named : fields.Named rows) :
    keysOf fields.constraint fields.column rows =
      .ok ((KeyGroups.collect (rows.map fields.entryOf)).map fun (name, columns) =>
        (name, inSequence columns)) := by
  have read : rows.mapM (keyColumnOf fields.constraint fields.column) =
      .ok (rows.map fields.entryOf) :=
    Traversal.mapM_eq_ok.2 <| List.forall₂_map_right_iff.2 <| List.forall₂_same.2 fun row mem =>
      keyColumnOf_of_named (named row mem)
  rw [keysOf, read]
  rfl

/-- The entries of a name are read of the rows of the constraint. -/
theorem itemsOf_entries (name : String) (rows : List Row) :
    KeyGroups.itemsOf name (rows.map fields.entryOf) =
      (fields.rowsOf name rows).map fun row => (fields.entryOf row).2 := by
  unfold KeyGroups.itemsOf rowsOf
  rw [List.filter_map, List.map_map]
  rfl

/-- The rows of a constraint are those that name it. -/
theorem mem_rowsOf {name : String} {row : Row} :
    row ∈ fields.rowsOf name rows ↔ row ∈ rows ∧ fields.constraintOf row = name := by
  rw [rowsOf, List.mem_filter, decide_eq_true_iff]

/-- The rows of a constraint in the order of their places. -/
def listing (fields : KeyFields) (name : String) (rows : List Row) : List Row :=
  (fields.rowsOf name rows).mergeSort fun first second => sequenceOf first ≤ sequenceOf second

/-- A listing has the rows of its constraint, each as often as it was reported. -/
theorem listing_perm (name : String) (rows : List Row) :
    (fields.listing name rows).Perm (fields.rowsOf name rows) := List.mergeSort_perm _ _

/-- Places in a key are in order. -/
theorem sequence_trans (first second third : Row)
    (before : decide (sequenceOf first ≤ sequenceOf second) = true)
    (after : decide (sequenceOf second ≤ sequenceOf third) = true) :
    decide (sequenceOf first ≤ sequenceOf third) = true :=
  decide_eq_true (Int64.le_trans (of_decide_eq_true before) (of_decide_eq_true after))

/-- Any two rows can be put in the order of their places. -/
theorem sequence_total (first second : Row) :
    (decide (sequenceOf first ≤ sequenceOf second) ||
      decide (sequenceOf second ≤ sequenceOf first)) = true := by
  rw [Bool.or_eq_true, decide_eq_true_iff, decide_eq_true_iff]
  exact Int64.le_total _ _

/-- A listing goes by the places in the key. -/
theorem listing_ordered (name : String) (rows : List Row) :
    (fields.listing name rows).Pairwise fun first second =>
      sequenceOf first ≤ sequenceOf second :=
  (List.pairwise_mergeSort sequence_trans sequence_total _).imp of_decide_eq_true

/-- Without a place that is claimed twice, places in order are increasing. -/
theorem listing_increasing (sequenced : fields.Sequenced rows) (name : String) :
    (fields.listing name rows).Pairwise fun first second =>
      sequenceOf first < sequenceOf second := by
  have apart : (fields.listing name rows).Pairwise fun first second =>
      sequenceOf first ≠ sequenceOf second := by
    refine List.Perm.pairwise (listing_perm name rows).symm ?_ Ne.symm
    refine (List.Pairwise.filter _ sequenced).imp_of_mem fun among amongToo distinct => ?_
    exact distinct ((mem_rowsOf.1 among).2.trans (mem_rowsOf.1 amongToo).2.symm)
  exact ((listing_ordered name rows).and apart).imp fun both =>
    Int64.lt_of_le_of_ne both.1 both.2

/-- The places leave one order for the rows of a constraint. -/
theorem eq_listing (sequenced : fields.Sequenced rows) {name : String} {other : List Row}
    (perm : other.Perm (fields.rowsOf name rows))
    (increasing : other.Pairwise fun first second => sequenceOf first < sequenceOf second) :
    other = fields.listing name rows :=
  (perm.trans (listing_perm name rows).symm).eq_of_pairwise
    (fun _ _ _ _ before after => absurd after (Int64.lt_asymm before)) increasing
    (listing_increasing sequenced name)

/-- The columns of a constraint as they are sorted are those of its rows in order. -/
theorem inSequence_rowsOf (name : String) (rows : List Row) :
    inSequence ((fields.rowsOf name rows).map fun row => (fields.entryOf row).2) =
      (fields.listing name rows).map fun row => (row.text? fields.column).getD "" := by
  unfold inSequence listing
  rw [← List.map_mergeSort (r := fun first second => sequenceOf first ≤ sequenceOf second),
    List.map_map]
  · rfl
  · intro first _ second _
    rfl

/-- The rows of a constraint in order name its columns as they are sorted. -/
theorem map_text?_listing (named : fields.Named rows) (name : String) :
    (fields.listing name rows).map (·.text? fields.column) =
      (inSequence ((fields.rowsOf name rows).map fun row => (fields.entryOf row).2)).map some := by
  rw [inSequence_rowsOf, List.map_map]
  refine List.map_congr_left fun row mem => ?_
  have among := (mem_rowsOf.1 ((listing_perm name rows).mem_iff.1 mem)).1
  obtain ⟨column, names⟩ := Option.ne_none_iff_exists'.1 (named row among)
  simp only [Function.comp, names, Option.getD_some]

/-- The columns of a constraint stand in increasing order of their places. -/
theorem listed_iff (sequenced : fields.Sequenced rows) (named : fields.Named rows) {name : String}
    {columns : List String} :
    fields.Listed rows name columns ↔
      inSequence ((fields.rowsOf name rows).map fun row => (fields.entryOf row).2) = columns := by
  have read := map_text?_listing named name
  constructor
  · rintro ⟨other, perm, increasing, names⟩
    rw [eq_listing sequenced perm increasing, read] at names
    exact (List.map_inj_right fun _ _ => Option.some.inj).1 names
  · rintro rfl
    exact ⟨_, listing_perm name rows, listing_increasing sequenced name, read⟩

/-- What is listed of a constraint does not depend on the order of the rows. -/
theorem Listed.perm {others : List Row} (shuffled : rows.Perm others) {name : String}
    {columns : List String} (listed : fields.Listed rows name columns) :
    fields.Listed others name columns := by
  obtain ⟨listing, perm, increasing, names⟩ := listed
  exact ⟨listing, perm.trans (shuffled.filter _), increasing, names⟩

/-- The constraints that rows tell of are those that they name, each with its rows' columns. -/
theorem mem_keysOf (named : fields.Named rows) {keys : KeyGroups String}
    (told : keysOf fields.constraint fields.column rows = .ok keys) {name : String}
    {columns : List String} :
    (name, columns) ∈ keys ↔ (∃ row ∈ rows, fields.constraintOf row = name) ∧
      inSequence ((fields.rowsOf name rows).map fun row => (fields.entryOf row).2) = columns := by
  cases (keysOf_of_named named).symm.trans told
  have present : (∃ row ∈ rows, fields.constraintOf row = name) ↔
      KeyGroups.itemsOf name (rows.map fields.entryOf) ≠ [] := by
    rw [itemsOf_entries, Ne, List.map_eq_nil_iff, List.eq_nil_iff_forall_not_mem]
    simp only [mem_rowsOf, not_forall, not_not]
  rw [present, ← itemsOf_entries, List.mem_map]
  constructor
  · rintro ⟨⟨key, items⟩, mem, same⟩
    cases same
    obtain ⟨some, rfl⟩ := KeyGroups.mem_collect.1 mem
    exact ⟨some, rfl⟩
  · rintro ⟨some, rfl⟩
    exact ⟨(name, _), KeyGroups.mem_collect.2 ⟨some, rfl⟩, rfl⟩

/-- Rows tell of a constraint wherever there is one of them. -/
theorem isEmpty_of_keysOf (named : fields.Named rows) {keys : KeyGroups String}
    (told : keysOf fields.constraint fields.column rows = .ok keys) :
    keys.isEmpty = rows.isEmpty := by
  have mem := fun name columns => @mem_keysOf fields rows named keys told name columns
  rw [Bool.eq_iff_iff, List.isEmpty_iff, List.isEmpty_iff]
  constructor
  · intro none
    rw [List.eq_nil_iff_forall_not_mem]
    intro row among
    rw [none] at mem
    exact List.not_mem_nil ((mem _ _).2 ⟨⟨row, among, rfl⟩, rfl⟩)
  · intro none
    rw [List.eq_nil_iff_forall_not_mem]
    intro key among
    obtain ⟨⟨row, present, -⟩, -⟩ := (mem key.1 key.2).1 among
    rw [none] at present
    cases present

end KeyFields

/-! ## Searches -/

/-- What is looked for among the constraints of a table. -/
inductive KeySearch where
  | any
  | named (name : String)
  /-- A constraint on exactly these columns in this order. -/
  | on (columns : List String)

namespace KeySearch

/-- Whether a search finds something among constraints. -/
def finds (keys : KeyGroups String) : KeySearch → Bool
  | .any => !keys.isEmpty
  | .named name => keys.any fun key => key.1 == name
  | .on columns => keys.any fun key => key.2 == columns

/-- What is looked for by columns, and perhaps by a name. -/
def matching (columns : List String) : Option String → KeySearch
  | some name => .named name
  | none => if columns.isEmpty then .any else .on columns

/-- A search finds a key among the groups exactly where the session does. -/
theorem finds_matching (keys : KeyGroups String) (columns : List String)
    (constraint : Option String) :
    (matching columns constraint).finds keys = matchesKey keys columns constraint := by
  cases constraint with
  | some name => rfl
  | none => cases columns <;> rfl

/-- Whether rows tell of what is looked for. -/
def AmongRows (fields : KeyFields) (rows : List Row) : KeySearch → Prop
  | .any => ∃ row, row ∈ rows
  | .named name => ∃ row ∈ rows, fields.constraintOf row = name
  | .on columns => ∃ row ∈ rows, fields.Listed rows (fields.constraintOf row) columns

variable {fields : KeyFields} {rows others : List Row}

/-- A key is found among rows in any order. -/
theorem AmongRows.perm (shuffled : rows.Perm others) {search : KeySearch}
    (found : search.AmongRows fields rows) : search.AmongRows fields others := by
  cases search with
  | any =>
    obtain ⟨row, mem⟩ := found
    exact ⟨row, shuffled.mem_iff.1 mem⟩
  | named name =>
    obtain ⟨row, mem, is⟩ := found
    exact ⟨row, shuffled.mem_iff.1 mem, is⟩
  | on columns =>
    obtain ⟨row, mem, listed⟩ := found
    exact ⟨row, shuffled.mem_iff.1 mem, listed.perm shuffled⟩

/-- A search among constraints finds what the rows tell of. -/
theorem finds_iff (sequenced : fields.Sequenced rows) (named : fields.Named rows)
    {keys : KeyGroups String} (told : keysOf fields.constraint fields.column rows = .ok keys)
    {search : KeySearch} : search.finds keys = true ↔ search.AmongRows fields rows := by
  have mem := fun name columns => @KeyFields.mem_keysOf fields rows named keys told name columns
  cases search with
  | any =>
    rw [finds, KeyFields.isEmpty_of_keysOf named told, Bool.not_eq_true',
      List.isEmpty_eq_false_iff_exists_mem]
    rfl
  | named name =>
    rw [finds, List.any_eq_true]
    constructor
    · rintro ⟨⟨key, columns⟩, among, is⟩
      cases beq_iff_eq.1 is
      exact ((mem key columns).1 among).1
    · intro told
      exact ⟨_, (mem name _).2 ⟨told, rfl⟩, beq_self_eq_true name⟩
  | on columns =>
    rw [finds, List.any_eq_true]
    constructor
    · rintro ⟨⟨key, found⟩, among, are⟩
      cases beq_iff_eq.1 are
      obtain ⟨⟨row, told, rfl⟩, ordered⟩ := (mem key found).1 among
      exact ⟨row, told, (KeyFields.listed_iff sequenced named).2 ordered⟩
    · rintro ⟨row, told, listed⟩
      exact ⟨_, (mem _ columns).2 ⟨⟨row, told, rfl⟩,
        (KeyFields.listed_iff sequenced named).1 listed⟩, beq_self_eq_true columns⟩

end KeySearch

end WarehouseSchema.Metadata
