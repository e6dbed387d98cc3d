import WarehouseSchema.Json.Compact

/-!
# Rows

A row of a query result, or one to insert: values by the name of their column, in the order of the
names, each name once.
-/

set_option autoImplicit false

namespace WarehouseSchema

/-- Values by column name. -/
structure Row where
  fields : List (String × Json)
  ordered : Json.Ordered fields

namespace Row

/-- The row without a column. -/
def empty : Row := ⟨[], List.Pairwise.nil⟩

instance : Inhabited Row := ⟨empty⟩

/-- The row of the given values, the last of a repeated name. -/
def ofFields (fields : List (String × Json)) : Row :=
  ⟨Json.orderMembers fields, Json.ordered_orderMembers fields⟩

/-- The names of the columns, in order. -/
def names (row : Row) : List String := row.fields.map Prod.fst

/-- The value of a column. -/
def get? (row : Row) (name : String) : Option Json := Json.member? row.fields name

/-- Whether the row has a column of this name. -/
def contains (row : Row) (name : String) : Bool := (row.get? name).isSome

/-- The row as a JSON value. -/
def toJson (row : Row) : Json := .object row.fields

/-- The row that a JSON value is. -/
def ofJson? : Json → Option Row
  | .object members => some (ofFields members)
  | _ => none

/-- The value of a column as text: a string is its text, any other value its JSON text; a null and a
column that is not there have none. -/
def text? (row : Row) (name : String) : Option String :=
  match row.get? name with
  | none | some .null => none
  | some (.string text) => some text
  | some value => some value.compact

end Row

end WarehouseSchema
