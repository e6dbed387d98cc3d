import WarehouseSchema.Toml.Basic

/-!
# The tables of a TOML document

The lines of a document say piece by piece what its tables hold. A key may be set once. A header
opens a table that no earlier line has written, or completes one that headers have only passed
through; a dotted key passes through tables that have no header of their own, and sets a key only in
a table that dotted keys have made. An inline table is complete where it is written.

While the lines of a table are read it stands apart from the rest of the document, and it is put in
its place when the next header begins.
-/

set_option autoImplicit false

namespace WarehouseSchema.Toml

/-- Puts a value under a key, in the place of the one that is there. -/
def put (key : String) (value : Toml) : List (String × Toml) → List (String × Toml)
  | [] => [(key, value)]
  | (k, old) :: rest => if k = key then (key, value) :: rest else (k, old) :: put key value rest

/-- Whether the path of a header or of a dotted key may go on in a table of this origin. -/
def mayPass (dotted : Bool) : TableOrigin → Bool
  | .inline => false
  | .header => !dotted
  | .passed | .dotted => true

/-- Changes the table that a path leads to. A table that is not there is made; where the path meets
a list of tables, it goes on in the last one. -/
def alterAt (dotted : Bool)
    (change : TableOrigin → List (String × Toml) → Option (List (String × Toml))) :
    List String → TableOrigin → List (String × Toml) → Option (List (String × Toml))
  | [], origin, entries => change origin entries
  | key :: path, _, entries =>
    match entries.lookup key with
    | none =>
      let made := if dotted then TableOrigin.dotted else .passed
      (alterAt dotted change path made []).map fun inner => put key (.table made inner) entries
    | some (.table origin inner) =>
      if mayPass dotted origin then
        (alterAt dotted change path origin inner).map fun inner =>
          put key (.table origin inner) entries
      else none
    | some (.tables items) =>
      match items.getLast? with
      | some (.table origin inner) =>
        (alterAt dotted change path origin inner).map fun inner =>
          put key (.tables (items.dropLast ++ [.table origin inner])) entries
      | _ => none
    | some _ => none

/-- Sets a key that is not set, in a table that a dotted key may write to exactly if there is
one. -/
def setNew (dotted : Bool) (key : String) (value : Toml) (origin : TableOrigin)
    (entries : List (String × Toml)) : Option (List (String × Toml)) :=
  if (origin = .dotted) ≠ (dotted = true) then none
  else if (entries.lookup key).isSome then none
  else some (put key value entries)

/-- Sets a key, after the keys that lead to it, in the entries of a table. -/
def addEntry (origin : TableOrigin) (entries : List (String × Toml)) (path : List String)
    (key : String) (value : Toml) : Option (List (String × Toml)) :=
  let dotted := !path.isEmpty
  alterAt dotted (setNew dotted key value) path origin entries

/-- Where the table whose lines are being read belongs. -/
inductive OpenHeader where
  | document
  | table (path : List String) (key : String)
  | listed (path : List String) (key : String)

/-- A document of which some lines have been read: the finished tables, and the table that is
open. -/
structure PartialDocument where
  finished : List (String × Toml)
  header : OpenHeader
  entries : List (String × Toml)

namespace PartialDocument

/-- The document without a line. -/
def empty : PartialDocument := ⟨[], .document, []⟩

/-- The entry at the beginning of the table that is open. -/
def addEntry (document : PartialDocument) (path : List String) (key : String) (value : Toml) :
    Option PartialDocument :=
  (Toml.addEntry .header document.entries path key value).map fun entries =>
    { document with entries }

/-- Puts the open table in its place; answers the entries of the whole document. -/
def place (document : PartialDocument) : Option (List (String × Toml)) :=
  let opened := Toml.table .header document.entries
  match document.header with
  | .document => some document.entries
  | .table path key =>
    alterAt false (fun _ entries => some (put key opened entries)) path .header document.finished
  | .listed path key =>
    let append (_ : TableOrigin) (entries : List (String × Toml)) : Option (List (String × Toml)) :=
      match entries.lookup key with
      | none => some (put key (.tables [opened]) entries)
      | some (.tables items) => some (put key (.tables (items ++ [opened])) entries)
      | some _ => none
    alterAt false append path .header document.finished

/-- The entries under a key that headers have only passed through, or none where the key is not set;
nothing where the table cannot be opened. -/
def reopened (key : String) (entries : List (String × Toml)) : Option (List (String × Toml)) :=
  match entries.lookup key with
  | none => some []
  | some (.table .passed inner) => some inner
  | some _ => none

/-- Begins the table of a header. -/
def openTable (document : PartialDocument) (path : List String) (key : String) :
    Option PartialDocument :=
  document.place.bind fun root =>
    let take (_ : TableOrigin) (entries : List (String × Toml)) : Option (List (String × Toml)) :=
      (reopened key entries).map fun inner => put key (.table .passed inner) entries
    (alterAt false take path .header root).bind fun root =>
      let found := path.foldl step (.table .header root)
      match found.entry? key with
      | some (.table _ inner) => some ⟨root, .table path key, inner⟩
      | _ => none
where
  /-- The table under a key, or the last one of a list of tables. -/
  step (table : Toml) (key : String) : Toml :=
    match table.entry? key with
    | some (.tables items) => items.getLast?.getD default
    | some inner => inner
    | none => default

/-- Begins the next table of a list of tables. -/
def openListedTable (document : PartialDocument) (path : List String) (key : String) :
    Option PartialDocument :=
  document.place.map fun root => ⟨root, .listed path key, []⟩

/-- The table that the document is. -/
def close (document : PartialDocument) : Option Toml :=
  document.place.map (.table .header ·)

end PartialDocument

end WarehouseSchema.Toml
