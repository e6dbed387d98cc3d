/-!
# TOML values

What a TOML document holds. A table knows how it came into being, because that decides whether later
lines may still add to it.
-/

set_option autoImplicit false

namespace WarehouseSchema

/-- How a table of a document came into being. -/
inductive TableOrigin where
  /-- It is the document itself or has a header of its own. -/
  | header
  /-- A header of one of its parts passed through it. -/
  | passed
  /-- A dotted key passed through it. -/
  | dotted
  /-- It is written between braces and is complete. -/
  | inline
  deriving DecidableEq, Repr

/-- A TOML value. Numbers with a fraction, dates and times are kept as they are spelled. -/
inductive Toml where
  | string (text : String)
  | integer (value : Int)
  | float (text : String)
  | boolean (value : Bool)
  | dateTime (text : String)
  | array (items : List Toml)
  /-- The tables that headers in double brackets have added under one name. -/
  | tables (items : List Toml)
  | table (origin : TableOrigin) (entries : List (String × Toml))
  deriving Repr

instance : Inhabited Toml := ⟨.table .header []⟩

/-- The value of an entry of a table. -/
def Toml.entry? (value : Toml) (key : String) : Option Toml :=
  match value with
  | .table _ entries => entries.lookup key
  | _ => none

end WarehouseSchema
