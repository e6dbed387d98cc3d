import WarehouseSchema.Json.Record
import WarehouseSchema.Quoted
import WarehouseSchema.Settings

/-!
# The history of migrations

The warehouse keeps a table with a row for every migration that was applied. The history read from
it holds each version once, in the order of the rows; where a version appears again, the later row
counts and the place stays.
-/

set_option autoImplicit false

namespace WarehouseSchema

/-- A migration that was applied. -/
structure AppliedMigration where
  version : Int64
  name : Option String
  startTime : Option String
  endTime : Option String
  /-- Whether a rollback stops here. -/
  breakpoint : Bool
  deriving DecidableEq, Repr

/-- The JSON form of an applied migration; a breakpoint is one, and none is zero. -/
def AppliedMigration.toJson (entry : AppliedMigration) : Json :=
  .ofMembers
    [("version", .ofInt entry.version.toInt),
     ("migration_name", .ofOption .string entry.name),
     ("start_time", .ofOption .string entry.startTime),
     ("end_time", .ofOption .string entry.endTime),
     ("breakpoint", .ofInt (if entry.breakpoint then 1 else 0))]

namespace History

/-- The columns that order the history. -/
def orderColumns : HistoryOrder → List String
  | .creation => ["version"]
  | .execution => ["start_time", "version"]

/-- Asks for the history. -/
def query (table : String) (order : HistoryOrder) : String :=
  "select * from " ++ Quoted.identifier table ++ " order by " ++
    ", ".intercalate ((orderColumns order).map fun column => Quoted.identifier column ++ " asc")

/-- Whether a value sets a breakpoint: everything does but null, false, zero, the empty text, the
text `0` and the word for false. -/
def setsBreakpoint : Json → Bool
  | .null => false
  | .bool b => b
  | .number n => !n.isZero
  | .string text => !(text == "" || text == "0" || Text.sameLetters text "false")
  | .array _ | .object _ => true

/-- The version that a value is: a whole number, or the text of one between blanks. -/
def versionOf? : Json → Option Int64
  | .number (.integer n) => Text.int64? n
  | .string text => Text.readInt64? (Text.trimmed text.toList)
  | _ => none

/-- The migration that a row tells of. -/
def entryOf (row : Row) : Except SchemaError AppliedMigration :=
  match (row.get? "version").bind versionOf? with
  | none => .error (.metadata (.versionMissing row))
  | some version =>
    .ok
      { version
        name := row.text? "migration_name"
        startTime := row.text? "start_time"
        endTime := row.text? "end_time"
        breakpoint := setsBreakpoint ((row.get? "breakpoint").getD .null) }

/-- Puts a migration in the place of the one of its version, or after all others. -/
def record (entry : AppliedMigration) : List AppliedMigration → List AppliedMigration
  | [] => [entry]
  | first :: rest =>
    if first.version = entry.version then entry :: rest else first :: record entry rest

/-- The versions stand in the order in which they were first recorded. -/
theorem versions_record (entry : AppliedMigration) (history : List AppliedMigration) :
    (record entry history).map (·.version) =
      if entry.version ∈ history.map (·.version) then history.map (·.version)
      else history.map (·.version) ++ [entry.version] := by
  induction history with
  | nil => simp [record]
  | cons first rest ih =>
    by_cases h : first.version = entry.version
    · simp [record, h]
    · by_cases hr : entry.version ∈ rest.map (·.version) <;>
        simp_all [record, Ne.symm h]

/-- A version leads to the migration that was recorded for it last. -/
theorem find?_record (entry : AppliedMigration) (history : List AppliedMigration)
    (version : Int64) :
    (record entry history).find? (·.version = version) =
      if entry.version = version then some entry
      else history.find? (·.version = version) := by
  induction history with
  | nil => by_cases h : entry.version = version <;> simp [record, h]
  | cons first rest ih =>
    by_cases hf : first.version = entry.version
    · by_cases h : entry.version = version <;> simp [record, hf, h]
    · rw [record, if_neg hf, List.find?_cons, List.find?_cons, ih]
      by_cases h : entry.version = version
      · have hne : first.version ≠ version := h ▸ hf
        simp [hne, h]
      · simp [h]

/-- The history that rows tell of. -/
def ofRows (rows : List Row) : Except SchemaError (List AppliedMigration) :=
  (rows.mapM entryOf).map fun entries =>
    entries.foldl (fun history entry => record entry history) []

end History

end WarehouseSchema
