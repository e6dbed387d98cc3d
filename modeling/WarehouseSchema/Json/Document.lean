import WarehouseSchema.Json.Token

/-!
# Documents of the JSON text format

A document is what a JSON text says before any of it is given a value: numerals stay spelled, the
members of an object stay in their order with repeated names, and a string with a lone surrogate is
kept as a string without text. So a reader can check the syntax of a part that it does not need
without asking whether that part has a value.

The tokens of a text are taken in one by one. `Progress` is what has been read so far: the
containers that are still open, innermost first, and what may come next.
-/

set_option autoImplicit false

namespace WarehouseSchema.JsonText

/-- A JSON text before its parts are given values. -/
inductive Document where
  | null
  | bool (value : Bool)
  | numeral (value : Numeral)
  | string (text : Option String)
  | array (items : List Document)
  | object (members : List (Option String × Document))

instance : Inhabited Document := ⟨.null⟩

namespace Document

/-- An open container that waits for a value; what it already holds stands last first. -/
inductive Frame where
  | item (items : List Document)
  | member (members : List (Option String × Document)) (name : Option String)

/-- What has been read of a document and what may come next. -/
inductive Progress where
  | value (frames : List Frame)
  | itemOrEnd (frames : List Frame)
  | afterItem (items : List Document) (frames : List Frame)
  | nameOrEnd (frames : List Frame)
  | name (members : List (Option String × Document)) (frames : List Frame)
  | colon (members : List (Option String × Document)) (name : Option String) (frames : List Frame)
  | afterMember (members : List (Option String × Document)) (frames : List Frame)
  | finished (document : Document)

/-- A value put where the innermost open container waits for one. -/
def fill (document : Document) : List Frame → Progress
  | [] => .finished document
  | .item items :: frames => .afterItem (document :: items) frames
  | .member members name :: frames => .afterMember ((name, document) :: members) frames

/-- A token where a value must begin. -/
def beginValue (frames : List Frame) : Token → Option Progress
  | .null => some (fill .null frames)
  | .bool b => some (fill (.bool b) frames)
  | .numeral n => some (fill (.numeral n) frames)
  | .string text => some (fill (.string text) frames)
  | .openArray => some (.itemOrEnd frames)
  | .openObject => some (.nameOrEnd frames)
  | _ => none

/-- Takes in one token; nothing where it may not come next. -/
def step : Progress → Token → Option Progress
  | .value frames, token => beginValue frames token
  | .itemOrEnd frames, .closeArray => some (fill (.array []) frames)
  | .itemOrEnd frames, token => beginValue (.item [] :: frames) token
  | .afterItem items frames, .comma => some (.value (.item items :: frames))
  | .afterItem items frames, .closeArray => some (fill (.array items.reverse) frames)
  | .nameOrEnd frames, .closeObject => some (fill (.object []) frames)
  | .nameOrEnd frames, .string text => some (.colon [] text frames)
  | .name members frames, .string text => some (.colon members text frames)
  | .colon members name frames, .colon => some (.value (.member members name :: frames))
  | .afterMember members frames, .comma => some (.name members frames)
  | .afterMember members frames, .closeObject => some (fill (.object members.reverse) frames)
  | _, _ => none

/-- The document that a sequence of tokens spells. -/
def ofTokens? (tokens : List Token) : Option Document :=
  match tokens.foldlM step (.value []) with
  | some (.finished document) => some document
  | _ => none

/-- The document that a text spells. -/
def parse? (text : List Char) : Option Document :=
  (Token.scan text).bind ofTokens?

mutual

/-- The value of a document: its numbers must be in range and its strings must have text. Of a
repeated name the last value counts. -/
def toJson? : Document → Option Json
  | .null => some .null
  | .bool b => some (.bool b)
  | .numeral n => n.toNumber?.map .number
  | .string text => text.map .string
  | .array items => (itemsToJson? items).map .array
  | .object members => (membersToJson? members).map fun ms => .object (Json.orderMembers ms)

/-- The values of the items of an array. -/
def itemsToJson? : List Document → Option (List Json)
  | [] => some []
  | item :: rest =>
    match toJson? item, itemsToJson? rest with
    | some j, some js => some (j :: js)
    | _, _ => none

/-- The members of an object with their values, in their order in the text. -/
def membersToJson? : List (Option String × Document) → Option (List (String × Json))
  | [] => some []
  | (name, document) :: rest =>
    match name, toJson? document, membersToJson? rest with
    | some key, some j, some js => some ((key, j) :: js)
    | _, _, _ => none

end

end Document

end WarehouseSchema.JsonText

namespace WarehouseSchema.Json

/-- The value that a text spells. -/
def parse? (text : String) : Option Json :=
  (JsonText.Document.parse? text.toList).bind JsonText.Document.toJson?

end WarehouseSchema.Json
