import WarehouseSchema.Operation
import WarehouseSchema.Proofs.Metadata.NamePattern
import WarehouseSchema.Proofs.Text.Tokens

/-!
# Looking for a table or a database

Whether a table or a database of a name exists is asked by a statement that lists the existing ones
by a pattern, and the answer is whether a row comes back. The name stands in the statement as a
literal that nothing in it ends, but what the literal stands for is read as a pattern.

## What is assumed

`Connection.Lists`: the warehouse answers a statement that lists names by a pattern with a row for
each existing name that the pattern covers, in any order. `Connection.listing` is one that does.

## What is proved

`existence_checks_look_for_a_pattern`: a check finds an existing name that the given one covers as a
pattern, so none that is there is missed, and it looks for the given name alone exactly when that
holds no percent sign and no underscore.
-/

set_option autoImplicit false

namespace WarehouseSchema

open NamePattern (covers)
open Statement (Token)
open Text (sameLetters)

/-- What is looked for by its name. -/
inductive Holding where
  | table
  | database

namespace Holding

/-- The word for all of a kind. -/
def plural : Holding → String
  | .table => "tables"
  | .database => "databases"

/-- The statement that lists what has a name of a pattern. -/
def query : Holding → String → String
  | .table => Metadata.showTables
  | .database => Metadata.showDatabases

/-- The operation that looks for a name. -/
def check : Holding → String → Operation
  | .table => .hasTable
  | .database => .hasDatabase

/-- The pattern that a statement lists names by, where it is such a statement. -/
def pattern? (holding : Holding) (sql : String) : Option String :=
  match Token.scan sql.toList with
  | some [.word first, .word second, .word third, .literal pattern] =>
    if first = "show" ∧ second = holding.plural ∧ third = "like" then some pattern else none
  | _ => none

/-- A name is listed by as it is, whatever quotes are in it. -/
theorem pattern?_query (holding : Holding) (name : String) :
    holding.pattern? (holding.query name) = some name := by
  have pieces : (holding.query name).toList =
      "show".toList ++ ' ' :: (holding.plural.toList ++ ' ' :: ("like".toList ++
        ' ' :: (Quoted.literal name).toList)) := by
    cases holding <;> exact String.toList_append
  have word (text : String) (nonempty : text.toList ≠ [])
      (bare : text.toList.all Token.isBare = true) : Token.Reads text.toList [.word text] :=
    .word nonempty bare
  have kind : Token.Reads holding.plural.toList [.word holding.plural] := by
    cases holding <;> exact word _ (by decide) (by decide)
  have reads := (word "show" (by decide) (by decide)).spaced
    (kind.spaced ((word "like" (by decide) (by decide)).spaced (.literal name)))
  rw [pattern?, pieces, reads.scan_eq]
  exact if_pos ⟨rfl, rfl, rfl⟩

end Holding

namespace Connection

variable {σ : Type}

/-- Statements that list names by a pattern are answered by a row for each existing name that the
pattern covers. -/
def Lists (connection : Connection σ) (holding : Holding) (existing : List String) : Prop :=
  ∀ (sql pattern : String) (state : σ), holding.pattern? sql = some pattern →
    ∃ rows : List Row, (connection.fetchRow sql state).1 = .ok rows.head? ∧
      (rows.map (·.text? "name")).Perm
        ((existing.filter fun name => covers pattern.toList name.toList).map some)

/-- A connection that lists the given names. -/
def listing (holding : Holding) (existing : List String) : Connection Unit :=
  .steady false fun sql =>
    match holding.pattern? sql with
    | some pattern =>
      (existing.filter fun name => covers pattern.toList name.toList).map fun name =>
        .ofFields [("name", .string name)]
    | none => []

/-- A connection that answers with what exists lists it. -/
theorem lists_listing (holding : Holding) (existing : List String) :
    (listing holding existing).Lists holding existing := by
  intro sql pattern state asked
  refine ⟨_, rfl, ?_⟩
  dsimp only
  rw [asked]
  dsimp only
  rw [List.map_map]
  exact .refl _

/-- A row comes back where an existing name is covered. -/
theorem Lists.answers {connection : Connection σ} {holding : Holding} {existing : List String}
    (lists : connection.Lists holding existing) (name : String) (state : σ) :
    ∃ row : Option Row, (connection.fetchRow (holding.query name) state).1 = .ok row ∧
      row.isSome = existing.any fun other => covers name.toList other.toList := by
  obtain ⟨rows, answered, listed⟩ := lists _ name state (holding.pattern?_query name)
  refine ⟨rows.head?, answered, ?_⟩
  have same := listed.isEmpty_eq
  rw [List.isEmpty_map, List.isEmpty_map, Bool.eq_iff_iff, List.isEmpty_iff, List.isEmpty_iff]
    at same
  rw [← List.isSome_find?, ← List.head?_filter, Bool.eq_iff_iff, List.isSome_head?,
    List.isSome_head?, ne_eq, same]

end Connection

namespace Holding

open Connection

variable {holding : Holding} {name : String}

/-- Whether the check for a name finds, in every warehouse, an existing name that passes a test. -/
def Finds (holding : Holding) (name : String) (test : String → Bool) : Prop :=
  ∀ (σ : Type) (surroundings : Surroundings σ) (state : σ) (existing : List String),
    surroundings.connection.Lists holding existing →
      ((holding.check name).perform.run surroundings state).result = .ok (.flag (existing.any test))

/-- Something is found exactly where the query has a first row. -/
theorem result_check {σ : Type} {surroundings : Surroundings σ} {state : σ} {row : Option Row}
    (answered : (surroundings.connection.fetchRow (holding.query name) state).1 = .ok row) :
    ((holding.check name).perform.run surroundings state).result = .ok (.flag row.isSome) := by
  have asked : ((holding.check name).perform : Session σ Outcome) =
      Session.fetchRow (holding.query name) >>= fun row => pure (.flag row.isSome) := by
    cases holding with
    | table => simp only [check, query, Operation.perform, Session.hasTable, map_bind, map_pure]
    | database =>
      simp only [check, query, Operation.perform, Session.hasDatabase, map_bind, map_pure]
  rw [asked, Session.run_bind, Session.run_fetchRow, answered]
  rfl

/-- The check for a name finds it among what the name covers as a pattern. -/
theorem finds_covered (holding : Holding) (name : String) :
    holding.Finds name fun other => covers name.toList other.toList := by
  intro σ surroundings state existing lists
  obtain ⟨row, answered, found⟩ := lists.answers name state
  rw [result_check answered, found]

/-- What a check finds is told by the pattern alone. -/
theorem finds_iff {test : String → Bool} :
    holding.Finds name test ↔ ∀ other, test other = covers name.toList other.toList := by
  constructor
  · intro finds other
    -- A warehouse where nothing else exists tells what a test says of one name.
    let surroundings : Surroundings Unit := ⟨listing holding [other], .standard⟩
    have lists : surroundings.connection.Lists holding [other] := lists_listing holding [other]
    have told := finds Unit surroundings () [other] lists
    have covered := finds_covered holding name Unit surroundings () [other] lists
    rw [told] at covered
    simpa using covered
  · intro same
    rw [funext same]
    exact finds_covered holding name

/-- A check reads the name as a pattern: it finds whatever is spelled with the letters of the name,
and it finds nothing else exactly when the name holds no wildcard. -/
theorem existence_checks_look_for_a_pattern (holding : Holding) (name : String) :
    holding.Finds name (fun other => covers name.toList other.toList) ∧
      (∀ other, sameLetters name other = true → covers name.toList other.toList = true) ∧
      (holding.Finds name (sameLetters name) ↔
        ∀ c ∈ name.toList, NamePattern.isWildcard c = false) := by
  refine ⟨finds_covered holding name, ?_, ?_⟩
  · intro other same
    exact NamePattern.covers_iff.2 (NamePattern.covers_of_letters (Text.sameLetters_iff.1 same))
  · rw [finds_iff, ← NamePattern.covers_only_its_letters_iff]
    constructor
    · intro same characters covered
      have found := same (String.ofList characters)
      rw [String.toList_ofList, NamePattern.covers_iff.2 covered, Text.sameLetters_iff,
        String.toList_ofList] at found
      exact found
    · intro only other
      rw [Bool.eq_iff_iff, Text.sameLetters_iff, NamePattern.covers_iff]
      exact ⟨NamePattern.covers_of_letters, only _⟩

/-- A table of another name is taken for the one that is looked for. -/
theorem another_table_is_taken_for_it :
    let connection := Connection.listing .table ["userXdata"]
    connection.Lists .table ["userXdata"] ∧
      ((Operation.hasTable "user_data").perform.run ⟨connection, .standard⟩ ()).result =
        .ok (.flag true) ∧
      ¬ ∃ other ∈ ["userXdata"], sameLetters "user_data" other = true := by
  intro connection
  have lists : connection.Lists .table ["userXdata"] := lists_listing .table ["userXdata"]
  have found := finds_covered .table "user_data" Unit ⟨connection, .standard⟩ () _ lists
  have covered : covers "user_data".toList "userXdata".toList = true := by decide
  rw [List.any_cons, covered, Bool.true_or] at found
  exact ⟨lists, found, by decide⟩

end Holding

end WarehouseSchema
