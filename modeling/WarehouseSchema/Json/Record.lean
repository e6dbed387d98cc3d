import WarehouseSchema.Json.Basic
import WarehouseSchema.Text.Numeral

/-!
# Records in JSON

A record is written as an object with a member for each field. It is read from such an object, where
members that are no field do not count, and also from an array that lists the fields in their order,
where the last ones may be missing if they have defaults and nothing may follow the last one.

A reader takes the fields one after another; it does not know which of the two forms it reads.
-/

set_option autoImplicit false

namespace WarehouseSchema

/-- The part of a record that has not been taken. -/
inductive RecordSource where
  | members (members : List (String × Json))
  | items (items : List Json)

/-- Takes fields from a record. -/
abbrev RecordReader (α : Type) := StateT RecordSource Option α

namespace RecordReader

variable {α : Type}

/-- The value of the next field, if the record has it. -/
def next (name : String) : RecordReader (Option Json)
  | .members members => some (Json.member? members name, .members members)
  | .items [] => some (none, .items [])
  | .items (value :: rest) => some (some value, .items rest)

/-- A field that the record must have. -/
def required (name : String) (read : Json → Option α) : RecordReader α := fun source =>
  (next name source).bind fun (value, rest) => (value.bind read).map (·, rest)

/-- A field that takes a default where the record does not have it. -/
def withDefault (name : String) (default : α) (read : Json → Option α) : RecordReader α :=
  fun source =>
    (next name source).bind fun (value, rest) =>
      match value with
      | none => some (default, rest)
      | some value => (read value).map (·, rest)

/-- A field that an object may leave out and a list may not. -/
def omittable (name : String) (read : Json → Option α) : RecordReader (Option α) := fun source =>
  match source, next name source with
  | .members _, some (none, rest) => some (none, rest)
  | _, some (some value, rest) => (read value).map fun a => (some a, rest)
  | _, _ => none

/-- The record that a value is. -/
def read (reader : RecordReader α) : Json → Option α
  | .object members => (reader (.members members)).map (·.1)
  | .array items =>
    match reader (.items items) with
    | some (a, .items []) => some a
    | _ => none
  | _ => none

end RecordReader

namespace Json

variable {α : Type}

/-- The text of a string. -/
def string? : Json → Option String
  | .string text => some text
  | _ => none

/-- A truth value. -/
def bool? : Json → Option Bool
  | .bool b => some b
  | _ => none

/-- A whole number in the range of 32 bits without sign. -/
def uint32? : Json → Option UInt32
  | .number (.integer n) =>
    if 0 ≤ n ∧ n < Decimal.twoTo 32 then some (UInt32.ofNat n.toNat) else none
  | _ => none

/-- A whole number in the range of 64 bits with a sign. -/
def int64? : Json → Option Int64
  | .number (.integer n) => Text.int64? n
  | _ => none

/-- A value that may be null. -/
def nullable? (read : Json → Option α) : Json → Option (Option α)
  | .null => some none
  | value => (read value).map some

/-- The items of an array. -/
def list? (read : Json → Option α) : Json → Option (List α)
  | .array items => items.mapM read
  | _ => none

/-- A whole number. -/
def ofInt (n : Int) : Json := .number (.integer n)

/-- A list as an array. -/
def ofList (write : α → Json) (items : List α) : Json := .array (items.map write)

/-- A value that may be missing, as null where it is. -/
def ofOption (write : α → Json) : Option α → Json
  | none => .null
  | some a => write a

/-- The members of an object in their order. -/
def ofMembers (members : List (String × Json)) : Json := .object (orderMembers members)

/-- A member that is left out where it has no value. -/
def memberIfSome (name : String) (write : α → Json) : Option α → List (String × Json)
  | none => []
  | some a => [(name, write a)]

/-- A member that is left out where it is an empty list. -/
def memberIfAny (name : String) (write : α → Json) : List α → List (String × Json)
  | [] => []
  | items => [(name, ofList write items)]

end Json

end WarehouseSchema
