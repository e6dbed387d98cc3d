import WarehouseSchema.Error
import WarehouseSchema.Json.Document
import WarehouseSchema.Json.Record

/-!
# Type descriptors

The warehouse reports the type of a column as a JSON document with the name of the type and its
parameters. Only the fields that are read need a value; what else the document holds must be JSON
and may be anything. A field that is read may stand only once.
-/

set_option autoImplicit false

namespace WarehouseSchema.Metadata

/-- The type of a column as the warehouse reports it. -/
structure Descriptor where
  type : String
  precision : Option UInt32
  scale : Option UInt32
  length : Option UInt32
  nullable : Option Bool
  collation : Option String
  deriving DecidableEq, Repr

namespace Descriptor

/-- The names of the fields that are read. -/
def fieldNames : List String := ["type", "precision", "scale", "length", "nullable", "collation"]

/-- Reads the fields of a descriptor. -/
def reader : RecordReader Descriptor := do
  let type ← .required "type" Json.string?
  let precision ← .withDefault "precision" none (Json.nullable? Json.uint32?)
  let scale ← .withDefault "scale" none (Json.nullable? Json.uint32?)
  let length ← .withDefault "length" none (Json.nullable? Json.uint32?)
  let nullable ← .withDefault "nullable" none (Json.nullable? Json.bool?)
  let collation ← .withDefault "collation" none (Json.nullable? Json.string?)
  pure ⟨type, precision, scale, length, nullable, collation⟩

/-- A member of an object, if its name has text. -/
def named? (member : Option String × JsonText.Document) : Option (String × JsonText.Document) :=
  member.1.map (·, member.2)

/-- The value of a member, if it has one. -/
def valued? (member : String × JsonText.Document) : Option (String × Json) :=
  member.2.toJson?.map (member.1, ·)

/-- The fields among the members of an object, with their values: every name must have text, and a
field may stand only once. -/
def fields? (members : List (Option String × JsonText.Document)) : Option (List (String × Json)) :=
  (members.mapM named?).bind fun named =>
    let known := named.filter fun member => fieldNames.contains member.1
    if (known.map (·.1)).Nodup then known.mapM valued? else none

/-- The descriptor that a document is. -/
def ofDocument? : JsonText.Document → Option Descriptor
  | .object members => (fields? members).bind fun fields => reader.read (.object fields)
  | .array items =>
    (JsonText.Document.itemsToJson? items).bind fun values => reader.read (.array values)
  | _ => none

/-- The descriptor that a text spells. -/
def parse (text : String) : Except SchemaError Descriptor :=
  match (JsonText.Document.parse? text.toList).bind ofDocument? with
  | some descriptor => .ok descriptor
  | none => .error (.metadata (.unreadableType text))

end Descriptor

end WarehouseSchema.Metadata
