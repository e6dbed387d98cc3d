import WarehouseSchema.Error
import WarehouseSchema.Text.Numeral

/-!
# Keys as the warehouse reports them

The warehouse reports a key by one row for each of its columns. Rows with the same constraint name
belong together; the columns of a constraint stand in the order of their sequence numbers, and where
these are equal in the order of the rows. The constraints stand in the order in which their names
first appear.
-/

set_option autoImplicit false

namespace WarehouseSchema.Metadata

/-- A column of a key with its place. -/
structure KeyColumn where
  sequence : Int64
  column : String
  deriving DecidableEq, Repr

/-- Constraints with their columns, in the order of first appearance. -/
abbrev KeyGroups (α : Type) := List (String × List α)

/-- Adds an item to the group of a name; a new group comes last. -/
def KeyGroups.add {α : Type} (name : String) (item : α) : KeyGroups α → KeyGroups α
  | [] => [(name, [item])]
  | (key, items) :: rest =>
    if key = name then (key, items ++ [item]) :: rest
    else (key, items) :: KeyGroups.add name item rest

/-- The names stand in the order in which they were first added. -/
theorem KeyGroups.names_add {α : Type} (name : String) (item : α) (groups : KeyGroups α) :
    (KeyGroups.add name item groups).map (·.1) =
      if name ∈ groups.map (·.1) then groups.map (·.1) else groups.map (·.1) ++ [name] := by
  induction groups with
  | nil => simp [KeyGroups.add]
  | cons head rest ih =>
    obtain ⟨key, items⟩ := head
    by_cases h : key = name
    · simp [KeyGroups.add, h]
    · by_cases hr : name ∈ rest.map (·.1) <;>
        simp_all [KeyGroups.add, Ne.symm h]

/-- The group of a name gets the item as its last one, and every other group stays. -/
theorem KeyGroups.lookup_add {α : Type} (name : String) (item : α) (groups : KeyGroups α)
    (wanted : String) :
    (KeyGroups.add name item groups).lookup wanted =
      if wanted = name then some ((groups.lookup name).getD [] ++ [item])
      else groups.lookup wanted := by
  have step : ∀ (key : String) (items : List α) (rest : KeyGroups α) (wanted : String),
      List.lookup wanted ((key, items) :: rest) =
        if wanted = key then some items else rest.lookup wanted :=
    fun key items rest wanted => Json.member?_cons key items rest wanted
  induction groups with
  | nil => simp [KeyGroups.add, step]
  | cons head rest ih =>
    obtain ⟨key, items⟩ := head
    by_cases h : key = name
    · subst h
      by_cases hw : wanted = key <;> simp [KeyGroups.add, step, hw]
    · rw [KeyGroups.add, if_neg h, step, step, step, ih, if_neg (Ne.symm h)]
      by_cases hw : wanted = name
      · rw [if_neg (hw ▸ Ne.symm h), if_pos hw, if_pos hw]
      · rw [if_neg hw, if_neg hw]

/-- The place that a row gives to its column; a row that gives none gives the place zero. -/
def sequenceOf (row : Row) : Int64 :=
  ((row.text? "key_sequence").bind fun text => Text.readInt64? text.toList).getD 0

/-- The constraint name and the column that a row names; a missing name is the empty one. -/
def keyColumnOf (nameField columnField : String) (row : Row) :
    Except SchemaError (String × KeyColumn) :=
  match row.text? columnField with
  | none => .error (.metadata (.keyColumnMissing columnField))
  | some column => .ok ((row.text? nameField).getD "", ⟨sequenceOf row, column⟩)

/-- The columns of a constraint in the order of their places. -/
def inSequence (columns : List KeyColumn) : List String :=
  (columns.mergeSort fun a b => a.sequence ≤ b.sequence).map (·.column)

/-- The constraints that rows tell of, each with its columns in order. -/
def keysOf (nameField columnField : String) (rows : List Row) :
    Except SchemaError (KeyGroups String) :=
  (rows.mapM (keyColumnOf nameField columnField)).map fun entries =>
    (entries.foldl (fun groups (name, item) => KeyGroups.add name item groups) []).map
      fun (name, columns) => (name, inSequence columns)

/-- The constraints of an answer about unique or primary keys. -/
def constraintKeys : List Row → Except SchemaError (KeyGroups String) :=
  keysOf "constraint_name" "column_name"

/-- The constraints of an answer about foreign keys. -/
def foreignKeys : List Row → Except SchemaError (KeyGroups String) :=
  keysOf "fk_name" "fk_column_name"

/-- Whether some constraint is of the given name, or without a name to look for, is on exactly the
given columns in this order; no columns at all match every constraint. -/
def matchesKey (keys : KeyGroups String) (columns : List String) : Option String → Bool
  | some name => keys.any fun key => key.1 == name
  | none => if columns.isEmpty then !keys.isEmpty else keys.any fun key => key.2 == columns

end WarehouseSchema.Metadata
