import WarehouseSchema.Operation
import WarehouseSchema.Proofs.Metadata.Keys

/-!
# Looking for a key

Four operations ask whether a table has a key: a unique constraint on given columns or of a given
name, and a primary or a foreign key on given columns or of a given name. They differ in the query
that they ask, in the fields in which its answer names constraints and columns, and in what they
look for. `Operation.keyLookup?` holds these as data, and `perform_of_keyLookup?` says that the
operation does nothing else.

## What is proved

`key_lookups_ignore_the_order_of_rows`: where no two rows of a constraint claim the same place, the
answer or the error depends on which rows the warehouse answers with and not on their order, and the
answer is yes exactly where the rows tell of what is looked for.
-/

set_option autoImplicit false

namespace WarehouseSchema

/-- A question about the keys of a table. -/
structure KeyLookup where
  query : String
  fields : Metadata.KeyFields
  search : Metadata.KeySearch

namespace KeyLookup

/-- The constraints that rows tell of, searched. -/
def outcome (lookup : KeyLookup) (rows : List Row) : Except SchemaError Outcome :=
  (Metadata.keysOf lookup.fields.constraint lookup.fields.column rows).map fun keys =>
    .flag (lookup.search.finds keys)

variable {lookup : KeyLookup} {rows others : List Row}

/-- Rows of which one names no column are refused. -/
theorem outcome_of_unnamed {row : Row} (mem : row ∈ rows)
    (unnamed : row.text? lookup.fields.column = none) :
    lookup.outcome rows = .error (.metadata (.keyColumnMissing lookup.fields.column)) := by
  rw [outcome, Metadata.KeyFields.keysOf_of_unnamed mem unnamed]
  rfl

/-- Rows that all name a column are searched. -/
theorem outcome_of_named (sequenced : lookup.fields.Sequenced rows)
    (named : lookup.fields.Named rows) :
    ∃ found, lookup.outcome rows = .ok (.flag found) ∧
      (found = true ↔ lookup.search.AmongRows lookup.fields rows) := by
  have told := Metadata.KeyFields.keysOf_of_named named
  refine ⟨_, ?_, Metadata.KeySearch.finds_iff sequenced named told⟩
  rw [outcome, told]
  rfl

theorem outcome_perm (sequenced : lookup.fields.Sequenced rows) (shuffled : rows.Perm others) :
    lookup.outcome rows = lookup.outcome others := by
  by_cases named : lookup.fields.Named rows
  · have namedToo : lookup.fields.Named others := fun row mem =>
      named row (shuffled.mem_iff.2 mem)
    obtain ⟨found, answers, tells⟩ := outcome_of_named sequenced named
    obtain ⟨foundToo, answersToo, tellsToo⟩ :=
      outcome_of_named (sequenced.perm shuffled) namedToo
    have same : found = foundToo := by
      rw [Bool.eq_iff_iff, tells, tellsToo]
      exact ⟨.perm shuffled, .perm shuffled.symm⟩
    rw [answers, answersToo, same]
  · unfold Metadata.KeyFields.Named at named
    push Not at named
    obtain ⟨row, mem, unnamed⟩ := named
    rw [outcome_of_unnamed mem unnamed, outcome_of_unnamed (shuffled.mem_iff.1 mem) unnamed]

end KeyLookup

namespace Operation

open Metadata

/-- The question about keys that an operation is, if it is one. -/
def keyLookup? : Operation → Option KeyLookup
  | .hasIndex table wanted =>
    some ⟨showUniqueKeys table, ⟨"constraint_name", "column_name"⟩, .on wanted⟩
  | .hasIndexNamed table name =>
    some ⟨showUniqueKeys table, ⟨"constraint_name", "column_name"⟩, .named name⟩
  | .hasPrimaryKey table wanted constraint =>
    some ⟨showPrimaryKeys table, ⟨"constraint_name", "column_name"⟩,
      .matching wanted constraint⟩
  | .hasForeignKey table wanted constraint =>
    some ⟨showImportedKeys table, ⟨"fk_name", "fk_column_name"⟩, .matching wanted constraint⟩
  | _ => none

variable {σ : Type} {operation : Operation} {lookup : KeyLookup}

/-- An operation that looks for a key asks one question and searches the answer. -/
theorem perform_of_keyLookup? (asks : operation.keyLookup? = some lookup) :
    (operation.perform : Session σ Outcome) =
      Session.fetchAll lookup.query >>= fun rows => Session.ofExcept (lookup.outcome rows) := by
  -- What is made of the keys once they are told calls nothing.
  have searched (keys : Except SchemaError (KeyGroups String)) (finds : KeyGroups String → Bool) :
      (Session.ofExcept keys >>= fun keys => pure (Outcome.flag (finds keys)) : Session σ Outcome) =
        Session.ofExcept (keys.map fun keys => .flag (finds keys)) := by
    cases keys <;> rfl
  cases operation with
  | hasIndex table wanted =>
    cases asks
    simp only [perform, Session.hasIndex, Session.uniqueKeys, map_bind, bind_assoc, map_pure,
      searched]
    rfl
  | hasIndexNamed table name =>
    cases asks
    simp only [perform, Session.hasIndexNamed, Session.uniqueKeys, map_bind, bind_assoc, map_pure,
      searched]
    rfl
  | hasPrimaryKey table wanted constraint =>
    cases asks
    simp only [perform, Session.hasPrimaryKey, map_bind, map_pure, searched,
      ← KeySearch.finds_matching]
    rfl
  | hasForeignKey table wanted constraint =>
    cases asks
    simp only [perform, Session.hasForeignKey, map_bind, map_pure, searched,
      ← KeySearch.finds_matching]
    rfl
  | _ => cases asks

theorem result_of_keyLookup? (asks : operation.keyLookup? = some lookup)
    {surroundings : Surroundings σ} {state : σ} {rows : List Row}
    (answered : (surroundings.connection.fetchAll lookup.query state).1 = .ok rows) :
    (operation.perform.run surroundings state).result = lookup.outcome rows := by
  rw [perform_of_keyLookup? asks, Session.run_bind, Session.run_fetchAll, answered]
  dsimp only [Except.mapError]
  cases lookup.outcome rows <;> rfl

/-- What is found among keys is what the rows of the answer tell of, in whatever order they come. -/
theorem key_lookups_ignore_the_order_of_rows {τ : Type}
    (asks : operation.keyLookup? = some lookup) {rows others : List Row}
    (sequenced : lookup.fields.Sequenced rows) (shuffled : rows.Perm others)
    (surroundings : Surroundings σ) (state : σ) (elsewhere : Surroundings τ) (start : τ)
    (answered : (surroundings.connection.fetchAll lookup.query state).1 = .ok rows)
    (answeredElsewhere : (elsewhere.connection.fetchAll lookup.query start).1 = .ok others) :
    let result := (operation.perform.run surroundings state).result
    (operation.perform.run elsewhere start).result = result ∧
      ((∃ row ∈ rows, row.text? lookup.fields.column = none) →
        result = .error (.metadata (.keyColumnMissing lookup.fields.column))) ∧
      (lookup.fields.Named rows → ∃ found, result = .ok (.flag found) ∧
        (found = true ↔ lookup.search.AmongRows lookup.fields rows)) := by
  intro result
  have told : result = lookup.outcome rows := result_of_keyLookup? asks answered
  rw [told, result_of_keyLookup? asks answeredElsewhere]
  refine ⟨(KeyLookup.outcome_perm sequenced shuffled).symm, ?_,
    KeyLookup.outcome_of_named sequenced⟩
  rintro ⟨row, mem, unnamed⟩
  exact KeyLookup.outcome_of_unnamed mem unnamed

/-- Two constraints, the rows of one among those of the other. -/
theorem key_lookups_ignore_the_order_of_rows_at_interleaved_constraints :
    let row (constraint column place : String) : Row :=
      .ofFields [("constraint_name", .string constraint), ("column_name", .string column),
        ("key_sequence", .string place)]
    let rows := [row "by_place" "zip" "2", row "by_code" "code" "1", row "by_place" "city" "1"]
    let shuffled := [row "by_code" "code" "1", row "by_place" "city" "1", row "by_place" "zip" "2"]
    let answering (rows : List Row) : Surroundings Unit :=
      ⟨.steady false fun _ => rows, .standard⟩
    let asked (rows : List Row) :=
      ((Operation.hasIndex "shops" ["city", "zip"]).perform.run (answering rows) ()).result
    asked shuffled = asked rows ∧ asked rows = .ok (.flag true) := by
  intro row rows shuffled answering asked
  have asks : (Operation.hasIndex "shops" ["city", "zip"]).keyLookup? =
      some ⟨showUniqueKeys "shops", ⟨"constraint_name", "column_name"⟩, .on ["city", "zip"]⟩ := rfl
  have sequenced : KeyFields.Sequenced ⟨"constraint_name", "column_name"⟩ rows := by
    decide +kernel
  have perm : rows.Perm shuffled := .trans (.swap _ _ _) (.cons _ (.swap _ _ _))
  have named : KeyFields.Named ⟨"constraint_name", "column_name"⟩ rows := by decide +kernel
  have told : (KeySearch.on ["city", "zip"]).AmongRows ⟨"constraint_name", "column_name"⟩ rows :=
    ⟨row "by_place" "zip" "2", List.mem_cons_self,
      [row "by_place" "city" "1", row "by_place" "zip" "2"], .swap _ _ _, by decide +kernel, by rfl⟩
  obtain ⟨same, -, answers⟩ := key_lookups_ignore_the_order_of_rows asks sequenced perm
    (answering rows) () (answering shuffled) () rfl rfl
  obtain ⟨found, answer, tells⟩ := answers named
  exact ⟨same, answer.trans (by rw [tells.2 told])⟩

end Operation

end WarehouseSchema
