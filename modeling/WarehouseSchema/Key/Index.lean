import WarehouseSchema.Keyword
import WarehouseSchema.Quoted

/-!
# Indexes and key clauses

An index names columns that a table is to keep unique, or its primary key. Any other kind of index
is kept by its name alone, so that it can be refused by that name. A key clause is what a statement
says about a key: the constraint's name if it has one, the kind of key, and its columns.
-/

set_option autoImplicit false

namespace WarehouseSchema

/-- The kind of an index. -/
inductive IndexKind where
  | unique
  | primaryKey
  | other (name : String)
  deriving DecidableEq, Repr

namespace IndexKind

/-- The kind that a text names. -/
def ofText (text : String) : IndexKind :=
  if Text.sameLetters (Text.trim text) "unique" then .unique
  else if Keyword.isPrimaryKey text then .primaryKey
  else .other (Text.trim text)

/-- The name of a kind. -/
def name : IndexKind → String
  | .unique => "unique"
  | .primaryKey => "primary key"
  | .other name => name

end IndexKind

/-- An index of a table. -/
structure Index where
  kind : IndexKind
  columns : List String
  name : Option String
  deriving DecidableEq, Repr

/-- An index without a name. -/
def Index.unnamed (kind : IndexKind) (columns : List String) : Index := ⟨kind, columns, none⟩

/-- The index under a name. -/
def Index.named (index : Index) (name : String) : Index := { index with name := some name }

/-- The kind of a key. -/
inductive KeyKind where
  | primary
  | unique
  deriving DecidableEq, Repr

/-- The words for a kind of key. -/
def KeyKind.words : KeyKind → String
  | .primary => "primary key"
  | .unique => "unique"

/-- A key of a table, as a statement declares it. -/
structure KeyClause where
  constraint : Option String
  kind : KeyKind
  columns : List String
  deriving DecidableEq, Repr

namespace KeyClause

/-- A key without a constraint name. -/
def unnamed (kind : KeyKind) (columns : List String) : KeyClause := ⟨none, kind, columns⟩

/-- The key that an index asks for. -/
def ofIndex (kind : KeyKind) (index : Index) : KeyClause := ⟨index.name, kind, index.columns⟩

/-- The text of a key clause. -/
def render (clause : KeyClause) : String :=
  let constraint := match clause.constraint with
    | some name => "constraint " ++ Quoted.identifier name ++ " "
    | none => ""
  constraint ++ clause.kind.words ++ " (" ++ Quoted.identifiers clause.columns ++ ")"

end KeyClause

end WarehouseSchema
