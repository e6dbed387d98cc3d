import WarehouseSchema.Proofs.Insert.Columns
import WarehouseSchema.Proofs.Text.Tokens

/-!
# No value leaves its literal

A statement that inserts rows with their values in place is text, and the values are anything: they
may hold quotes, parentheses and commas, or look like further rows. Cut into tokens the statement
still has one token for each value, and that token stands for the value.

## What is proved

`inPlace_reads_as_its_rows`: the tokens of such a statement are those that the table, the columns
and the rows ask for, and no others. A string is told from its literal, an array or an object from
the literal with its compact text, and every other value is a word that is its compact text. The
names of the table and of the columns are without double quotes, which nothing would tell from the
end of a name.
-/

set_option autoImplicit false

namespace WarehouseSchema.Insert

open Statement (Token)
open Statement.Token (Reads)

/-- The token that a value is in a statement. -/
def valueToken : Json → Token
  | .string text => .literal text
  | .array items => .literal (Json.array items).compact
  | .object members => .literal (Json.object members).compact
  | value => .word value.compact

/-- The tokens of a row: its values between parentheses. -/
def rowTokens (row : Row) : List Token :=
  Token.group (row.fields.map fun field => [valueToken field.2])

/-- The tokens of a statement that inserts rows into columns of a table. -/
def tokens (table : String) (columns : List String) (rows : List Row) : List Token :=
  .word "insert" :: .word "into" :: .name table ::
    .mark '(' :: ([.mark ','].intercalate (columns.map fun column => [.name column]) ++
      .mark ')' :: .word "values" ::
        ([.mark ','].intercalate (rows.map rowTokens) ++ [.mark ';']))

theorem reads_literal (value : Json) : Reads (literal value).toList [valueToken value] := by
  cases value with
  | null => exact .word (by decide) (by decide)
  | bool b => cases b <;> exact .word (by decide) (by decide)
  | number n => exact .number n
  | string text => exact .literal text
  | array items => exact .literal _
  | object members => exact .literal _

theorem toList_group (texts : List String) :
    (group texts).toList = '(' :: ((", ".intercalate texts).toList ++ [')']) := by
  have pieces (a b c : String) : (a ++ b ++ c).toList = a.toList ++ (b.toList ++ c.toList) := by
    simp only [String.toList_append, List.append_assoc]
  exact pieces "(" (", ".intercalate texts) ")"

theorem reads_row (row : Row) :
    Reads (group (row.fields.map fun field => literal field.2)).toList (rowTokens row) := by
  rw [toList_group]
  exact .group fun field _ => reads_literal field.2

/-- The text of a statement with values in place. -/
theorem toList_inPlace (table : String) (columns groups : List String) :
    (opening table columns ++ ", ".intercalate groups ++ ";").toList =
      "insert".toList ++ ' ' :: ("into".toList ++ ' ' :: ((Quoted.identifier table).toList ++
        ' ' :: '(' :: ((Quoted.identifiers columns).toList ++ ')' :: ' ' :: ("values".toList ++
          ' ' :: ((", ".intercalate groups).toList ++ [';']))))) := by
  have pieces (a b c d e f g : String) : (a ++ b ++ c ++ d ++ e ++ f ++ g).toList =
      a.toList ++ (b.toList ++ (c.toList ++ (d.toList ++ (e.toList ++
        (f.toList ++ g.toList))))) := by
    simp only [String.toList_append, List.append_assoc]
  exact pieces "insert into " (Quoted.identifier table) " (" (Quoted.identifiers columns)
    ") values " (", ".intercalate groups) ";"

/-- A statement that inserts rows with their values in place is read as the table, the columns and
the values that it was made of. -/
theorem inPlace_reads_as_its_rows {table : String} {first : Row} {others : List Row}
    {answer : Option String} (accepted : inPlace table (first :: others) = .ok answer)
    (plainTable : '"' ∉ table.toList) (plain : ∀ column ∈ first.names, '"' ∉ column.toList) :
    (∀ row ∈ others, row.names = first.names) ∧
      ∃ sql, answer = some sql ∧
        Token.scan sql.toList = some (tokens table first.names (first :: others)) := by
  obtain ⟨alike, rfl⟩ := inPlace_eq_ok accepted
  refine ⟨alike, _, rfl, ?_⟩
  have word (text : String) (nonempty : text.toList ≠ [])
      (bare : text.toList.all Token.isBare = true) : Reads text.toList [.word text] :=
    .word nonempty bare
  have rows : Reads ((", ".intercalate ((first :: others).map fun row =>
      group (row.fields.map fun field => literal field.2))).toList ++ [';'])
      ([.mark ','].intercalate ((first :: others).map rowTokens) ++ [.mark ';']) :=
    (Reads.joined fun row _ => reads_row row).append (Token.parted_cons rfl _) (.mark rfl .nil)
  have values := (word "values" (by decide) (by decide)).spaced rows
  have names : Reads (Quoted.identifiers first.names).toList
      ([.mark ','].intercalate (first.names.map fun column => [.name column])) :=
    .joined fun column mem => .name (plain column mem)
  have list := names.append (Token.parted_cons rfl _) (values.space.mark (c := ')') rfl)
  have target := (Reads.name plainTable).spaced (list.mark (c := '(') rfl)
  have whole := (word "insert" (by decide) (by decide)).spaced
    ((word "into" (by decide) (by decide)).spaced target)
  rw [toList_inPlace]
  exact whole.scan_eq

/-- Values that look like the end of their literal, of their row and of the statement. -/
theorem inPlace_reads_as_its_rows_at_quotes :
    let first : Row := .ofFields [("a", .string "it's'), ('"), ("b", .array [.string "'", .null])]
    let second : Row := .ofFields [("a", .null), ("b", .string ";")]
    let sql := "insert into \"t\" (\"a\", \"b\") values " ++
      "('it''s''), (''', '[\"''\",null]'), (null, ';');"
    inPlace "t" [first, second] = .ok (some sql) ∧
      Token.scan sql.toList = some [.word "insert", .word "into", .name "t", .mark '(', .name "a",
        .mark ',', .name "b", .mark ')', .word "values",
        .mark '(', .literal "it's'), ('", .mark ',', .literal "[\"'\",null]", .mark ')', .mark ',',
        .mark '(', .word "null", .mark ',', .literal ";", .mark ')', .mark ';'] := by
  intro first second sql
  have accepted : inPlace "t" [first, second] = .ok (some sql) := by rfl
  obtain ⟨-, written, same, read⟩ := inPlace_reads_as_its_rows accepted (by decide) (by decide)
  cases same
  exact ⟨accepted, read.trans (by rfl)⟩

end WarehouseSchema.Insert
