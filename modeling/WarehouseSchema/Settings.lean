import WarehouseSchema.Error
import WarehouseSchema.Json.Record
import WarehouseSchema.Toml.Syntax

/-!
# Settings

The settings of a session: where the history of migrations is kept, in which order it is read, and
the database and schema of the connection. They are read from a TOML document, of which only the
keys of these settings count; each of them must be a string. The order may be left open until it is
asked for.
-/

set_option autoImplicit false

namespace WarehouseSchema

/-- The order in which the history of migrations is read. -/
inductive HistoryOrder where
  /-- By version, which is the time a migration was written. -/
  | creation
  /-- By the time a migration was run, then by version. -/
  | execution
  deriving DecidableEq, Repr

namespace HistoryOrder

/-- The name of an order. -/
def name : HistoryOrder → String
  | .creation => "creation"
  | .execution => "execution"

/-- The order that a text names, in any case. A text with blanks around the name names none. -/
def ofText (text : String) : Except ConfigFault HistoryOrder :=
  if Text.sameLetters text "creation" then .ok .creation
  else if Text.sameLetters text "execution" then .ok .execution
  else .error (.unknownOrder text)

end HistoryOrder

/-- The settings of a session. -/
structure Settings where
  order : Option HistoryOrder
  /-- The table that holds the history of migrations. -/
  historyTable : String
  database : Option String
  schema : Option String
  deriving DecidableEq, Repr

namespace Settings

/-- The settings where none is given. -/
def standard : Settings := ⟨none, "phinxlog", none, none⟩

def withOrder (settings : Settings) (order : HistoryOrder) : Settings :=
  { settings with order := some order }

def withHistoryTable (settings : Settings) (historyTable : String) : Settings :=
  { settings with historyTable }

def withDatabase (settings : Settings) (database : String) : Settings :=
  { settings with database := some database }

def withSchema (settings : Settings) (schema : String) : Settings :=
  { settings with schema := some schema }

/-- The JSON form of the settings; what is not set is not written. -/
def toJson (settings : Settings) : Json :=
  .ofMembers <|
    [("migration_table", .string settings.historyTable)] ++
      Json.memberIfSome "version_order" (fun order => .string order.name) settings.order ++
      Json.memberIfSome "database" .string settings.database ++
      Json.memberIfSome "schema" .string settings.schema

/-- The order of the history, which must have been set. -/
def requireOrder (settings : Settings) : Except ConfigFault HistoryOrder :=
  match settings.order with
  | some order => .ok order
  | none => .error .missingOrder

/-- The text of a setting, if the document has it; a setting of another kind is refused. -/
def textOf (document : Toml) (key : String) : Except ConfigFault (Option String) :=
  match document.entry? key with
  | none => .ok none
  | some (.string text) => .ok (some text)
  | some _ => .error .malformed

/-- The settings of a document. The order is checked after everything else. -/
def ofDocument (document : Toml) : Except ConfigFault Settings := do
  let order ← textOf document "version_order"
  let historyTable ← textOf document "migration_table"
  let database ← textOf document "database"
  let schema ← textOf document "schema"
  let order ← order.mapM HistoryOrder.ofText
  pure ⟨order, historyTable.getD standard.historyTable, database, schema⟩

/-- The settings that a text spells. -/
def parse (text : String) : Except ConfigFault Settings :=
  match Toml.parse? text with
  | some document => ofDocument document
  | none => .error .malformed

/-- The settings that the contents of a file spell, if there is a file. -/
def ofFile (contents : Option ByteArray) : Except ConfigFault Settings :=
  match contents.bind String.fromUTF8? with
  | some text => parse text
  | none => .error .unreadable

end Settings

end WarehouseSchema
