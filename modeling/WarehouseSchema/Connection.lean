import WarehouseSchema.Error

/-!
# Connections

A connection runs statements and answers queries. What it is made of does not matter here: it has a
state, and each call goes from one state to the next. A connection may simulate; then statements are
to be shown instead of run.

Only four calls must be given. A connection that says nothing else never simulates, answers a query
for one row with the first of all rows, and answers a query for a cursor with all of them.
-/

set_option autoImplicit false

namespace WarehouseSchema

/-- The rows of an answer that have not been taken. -/
structure Cursor where
  rows : List Row

namespace Cursor

/-- How many rows have not been taken. -/
def size (cursor : Cursor) : Nat := cursor.rows.length

/-- Takes the next row. -/
def next? (cursor : Cursor) : Option (Row × Cursor) :=
  match cursor.rows with
  | [] => none
  | row :: rest => some (row, ⟨rest⟩)

/-- Takes as many rows as asked for, or all that are left. -/
def take (cursor : Cursor) (count : Nat) : List Row × Cursor :=
  (cursor.rows.take count, ⟨cursor.rows.drop count⟩)

end Cursor

/-- What a call on a connection comes to. -/
abbrev Answer (α : Type) := Except StatementFailure α

/-- The calls that a connection with states in `σ` understands. -/
structure Connection (σ : Type) where
  /-- Runs a statement; answers the number of affected rows. -/
  execute : String → σ → Answer Nat × σ
  /-- Runs a query; answers all rows. -/
  fetchAll : String → σ → Answer (List Row) × σ
  /-- Runs a statement with values bound to its placeholders in order. -/
  executeBound : String → List Json → σ → Answer Nat × σ
  /-- Shows a statement. -/
  writeOutput : String → σ → σ
  /-- Whether statements are to be shown instead of run. -/
  isSimulating : σ → Bool := fun _ => false
  /-- Runs a query; answers its first row. -/
  fetchRow : String → σ → Answer (Option Row) × σ := fun sql state =>
    let (answer, next) := fetchAll sql state
    (answer.map List.head?, next)
  /-- Runs a query; answers a cursor over its rows. -/
  openCursor : String → σ → Answer Cursor × σ := fun sql state =>
    let (answer, next) := fetchAll sql state
    (answer.map Cursor.mk, next)

/-- A connection that accepts every statement and answers each query with fixed rows. -/
def Connection.steady (simulating : Bool) (rowsFor : String → List Row) : Connection Unit where
  execute _ state := (.ok 1, state)
  fetchAll sql state := (.ok (rowsFor sql), state)
  executeBound _ values state := (.ok values.length, state)
  writeOutput _ state := state
  isSimulating _ := simulating

end WarehouseSchema
