import WarehouseSchema.Proofs.Alter.Reading

/-!
# What changes make of the columns of a table

A plan is text to the warehouse. Here the texts are read as changes to the column of a name, a
change is what it makes of the column, and a plan is what its texts, one after another, make of the
columns of a table.

A change of the type replaces the type and all its parameters by exactly what is spelled. Every
other change replaces the one field that it names, and a default is held as the text that was given.
A change that addresses a column needs the column, and a new name must not be taken.
-/

set_option autoImplicit false

namespace WarehouseSchema

namespace Column

/-- The column with the type that is spelled, and with no parameter but those that are spelled. -/
def retyped (column : Column) (spelling : TypeSpelling) : Column :=
  { column with
    typeName := spelling.type.keyword
    zoned := false
    precision := spelling.precision
    scale := spelling.scale
    limit := spelling.limit
    collation := spelling.collation }

/-- The column as the warehouse holds it: its default is the text that is written for it. A default
of a column without a known type has no text. -/
def held (column : Column) : Column :=
  match column.type with
  | .ok type => { column with default := (column.defaultText type).map .expression }
  | .error _ => column

/-- The warehouse holds a column under its name. -/
@[simp] theorem name_held (column : Column) : column.held.name = column.name := by
  unfold held
  split <;> rfl

/-- A column of a known type is held with its default as text. -/
theorem held_of_type {column : Column} {type : DataType} (typed : column.type = .ok type) :
    column.held = { column with default := (column.defaultText type).map .expression } := by
  unfold held
  rw [typed]

/-- Columns with those of a name edited. -/
def edit (columns : List Column) (name : String) (f : Column → Column) : List Column :=
  columns.map fun column => if column.name = name then f column else column

/-- Edits that agree on the columns of the name are the same edit. -/
theorem edit_congr {name : String} {f g : Column → Column}
    (same : ∀ column : Column, column.name = name → f column = g column) (columns : List Column) :
    edit columns name f = edit columns name g := by
  apply List.map_congr_left
  intro column _
  split
  · rename_i named
    exact same column named
  · rfl

/-- An edit that keeps the name of a column keeps the names of all. -/
theorem names_edit {f : Column → Column} (keeps : ∀ column, (f column).name = column.name)
    (columns : List Column) (name : String) :
    (edit columns name f).map Column.name = columns.map Column.name := by
  rw [edit, List.map_map]
  apply List.map_congr_left
  intro column _
  rw [Function.comp_apply]
  split
  · exact keeps column
  · rfl

/-- Two edits of the columns of one name are one edit, if the first keeps names. -/
theorem edit_edit {f : Column → Column} (keeps : ∀ column, (f column).name = column.name)
    (columns : List Column) (name : String) (g : Column → Column) :
    edit (edit columns name f) name g = edit columns name fun column => g (f column) := by
  rw [edit, edit, List.map_map]
  apply List.map_congr_left
  intro column _
  rw [Function.comp_apply]
  by_cases named : column.name = name
  · rw [if_pos named, if_pos ((keeps column).trans named), if_pos named]
  · rw [if_neg named, if_neg named, if_neg named]

/-- To edit nothing is to leave the columns as they are. -/
theorem edit_id (columns : List Column) (name : String) : edit columns name id = columns :=
  (List.map_congr_left fun column _ => ite_self column).trans (List.map_id columns)

/-- The first column is found under its name, whatever follows it. -/
theorem find?_cons_of_name_eq {column : Column} {name : String} (named : column.name = name)
    (rest : List Column) : find? (column :: rest) name = some column :=
  List.find?_cons_of_pos (beq_iff_eq.2 named)

/-- A column of another name is passed over. -/
theorem find?_cons_of_name_ne {column : Column} {name : String} (other : column.name ≠ name)
    (rest : List Column) : find? (column :: rest) name = find? rest name :=
  List.find?_cons_of_neg fun same => other (eq_of_beq same)

/-- The first column is edited if it has the name. -/
theorem edit_cons_of_name_eq {column : Column} {name : String} (named : column.name = name)
    (rest : List Column) (f : Column → Column) :
    edit (column :: rest) name f = f column :: edit rest name f := by
  rw [edit, List.map_cons, if_pos named, edit]

/-- The first column is left alone if it has another name. -/
theorem edit_cons_of_name_ne {column : Column} {name : String} (other : column.name ≠ name)
    (rest : List Column) (f : Column → Column) :
    edit (column :: rest) name f = column :: edit rest name f := by
  rw [edit, List.map_cons, if_neg other, edit]

/-- The column that is found after an edit that gives a name that no other column has. -/
theorem find?_edit {name target : String} {f : Column → Column}
    (named : ∀ column, (f column).name = target) (columns : List Column)
    (free : target = name ∨ target ∉ columns.map Column.name) :
    find? (edit columns name f) target = (find? columns name).map f := by
  induction columns with
  | nil => rfl
  | cons column rest ih =>
    by_cases same : column.name = name
    · rw [edit_cons_of_name_eq same, find?_cons_of_name_eq same,
        find?_cons_of_name_eq (named column), Option.map_some]
    · have other : column.name ≠ target := by
        rcases free with rfl | absent
        · exact same
        · rintro rfl
          exact absent List.mem_cons_self
      have later : target = name ∨ target ∉ rest.map Column.name :=
        free.imp_right fun absent mem => absent (List.mem_cons_of_mem _ mem)
      rw [edit_cons_of_name_ne same, find?_cons_of_name_ne same, find?_cons_of_name_ne other]
      exact ih later

/-- The column that is found under a name has it. -/
theorem name_of_find? {columns : List Column} {name : String} {column : Column}
    (found : find? columns name = some column) : column.name = name :=
  eq_of_beq (List.find?_some (p := fun column : Column => column.name == name) found)

/-- A name under which a column is found is one of the names of the table. -/
theorem mem_of_find? {columns : List Column} {name : String} {column : Column}
    (found : find? columns name = some column) : name ∈ columns.map Column.name :=
  List.mem_map.2 ⟨column, List.mem_of_find?_eq_some found, name_of_find? found⟩

/-- No column is found exactly where none has the name. -/
theorem find?_eq_none_iff {columns : List Column} {name : String} :
    find? columns name = none ↔ name ∉ columns.map Column.name := by
  simp [find?]

/-- Looking for a column and holding the table as the warehouse does may change places. -/
theorem find?_map_held (columns : List Column) (name : String) :
    find? (columns.map held) name = (find? columns name).map held := by
  have same : (fun column : Column => column.name == name) ∘ held =
      fun column => column.name == name := by
    funext column
    rw [Function.comp_apply, name_held]
  rw [find?, find?, List.find?_map, same]

end Column

/-- What a change makes of a column. -/
def ColumnChange.apply : ColumnChange → Column → Column
  | .setType spelling, column => column.retyped spelling
  | .setDefault text, column => { column with default := some (.expression text) }
  | .dropDefault, column => { column with default := none }
  | .setNotNull, column => { column with nullable := false }
  | .dropNotNull, column => { column with nullable := true }
  | .setComment text, column => { column with comment := some text }
  | .unsetComment, column => { column with comment := none }

namespace ColumnChange

/-- No change of a column's shape gives it another name. -/
theorem name_apply (change : ColumnChange) (column : Column) :
    (change.apply column).name = column.name := by
  cases change <;> rfl

/-- What changes make of a column, one after another. -/
def applyAll (changes : List ColumnChange) (column : Column) : Column :=
  changes.foldl (fun column change => change.apply column) column

@[simp] theorem applyAll_nil (column : Column) : applyAll [] column = column := rfl

@[simp] theorem applyAll_cons (change : ColumnChange) (rest : List ColumnChange) (column : Column) :
    applyAll (change :: rest) column = applyAll rest (change.apply column) := rfl

/-- Changes are made in order, the first ones first. -/
@[simp] theorem applyAll_append (first second : List ColumnChange) (column : Column) :
    applyAll (first ++ second) column = applyAll second (applyAll first column) :=
  List.foldl_append

/-- Changes of a column's shape leave it its name, however many there are. -/
theorem name_applyAll (changes : List ColumnChange) (column : Column) :
    (applyAll changes column).name = column.name := by
  induction changes generalizing column with
  | nil => rfl
  | cons change rest ih => rw [applyAll_cons, ih, name_apply]

end ColumnChange

/-- What a change makes of the columns of a table. A column that is altered or renamed must be
there, and a new name must be free. What a change to anything but the shape or the name of a column
makes of them is not said here. -/
def TableChange.applyTo? : TableChange → List Column → Option (List Column)
  | .alterColumn name change, columns =>
    if name ∈ columns.map Column.name then some (Column.edit columns name change.apply) else none
  | .renameColumn source target, columns =>
    if source ∈ columns.map Column.name ∧ target ∉ columns.map Column.name then
      some (Column.edit columns source (·.withName target))
    else none
  | _, _ => none

/-- A column that is there can be altered. -/
theorem TableChange.applyTo?_alterColumn {name : String} {columns : List Column}
    (present : name ∈ columns.map Column.name) (change : ColumnChange) :
    (TableChange.alterColumn name change).applyTo? columns =
      some (Column.edit columns name change.apply) :=
  if_pos present

/-- A column that is there can be given a name that is free. -/
theorem TableChange.applyTo?_renameColumn {source target : String} {columns : List Column}
    (present : source ∈ columns.map Column.name) (free : target ∉ columns.map Column.name) :
    (TableChange.renameColumn source target).applyTo? columns =
      some (Column.edit columns source (·.withName target)) :=
  if_pos ⟨present, free⟩

/-- What texts make of the columns of a table. They are read as changes to the column of a name, and
the changes are made in order; where one of the texts cannot be read, none is carried out. -/
def Column.carryOut? (columns : List Column) (name : String) (fragments : List String) :
    Option (List Column) :=
  (fragments.mapM (TableChange.read? name)).bind fun changes =>
    changes.foldlM (fun columns change => change.applyTo? columns) columns

/-- The texts of a plan that can be read make of the columns what its changes make of them. -/
theorem AlterPlan.Legible.carryOut?_eq {plan : AlterPlan} {name : String}
    (legible : plan.Legible name) (columns : List Column) :
    Column.carryOut? columns name plan.fragments =
      plan.changes.foldlM (fun columns change => change.applyTo? columns) columns := by
  rw [Column.carryOut?, legible.mapM_fragments, Option.bind_some]

/-- Changes that all address one column that is there make of it what they make of it one after
another, and leave the others alone. The induction is on the changes; none of them takes the name
away that the next one needs. -/
theorem TableChange.foldlM_alterColumn {name : String} (changes : List ColumnChange) :
    ∀ {columns : List Column}, name ∈ columns.map Column.name →
      (changes.map (TableChange.alterColumn name)).foldlM
          (fun columns change => change.applyTo? columns) columns =
        some (Column.edit columns name (ColumnChange.applyAll changes)) := by
  induction changes with
  | nil => intro columns _; exact congrArg some (Column.edit_id columns name).symm
  | cons change rest ih =>
    intro columns present
    have kept : name ∈ (Column.edit columns name change.apply).map Column.name := by
      rw [Column.names_edit change.name_apply]
      exact present
    rw [List.map_cons, List.foldlM_cons, TableChange.applyTo?_alterColumn present]
    refine (ih kept).trans ?_
    rw [Column.edit_edit change.name_apply]
    rfl

end WarehouseSchema
