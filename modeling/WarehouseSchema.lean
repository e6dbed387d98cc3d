import WarehouseSchema.Text.Shown
import WarehouseSchema.Text.Numeral
import WarehouseSchema.Text.Digit
import WarehouseSchema.Text.Letters
import WarehouseSchema.Quoted
import WarehouseSchema.Decimal.Binary64
import WarehouseSchema.Decimal.Layout
import WarehouseSchema.Json.Basic
import WarehouseSchema.Json.Document
import WarehouseSchema.Json.Compact
import WarehouseSchema.DataType.Vocabulary
import WarehouseSchema.Column.Definition
import WarehouseSchema.Key.Choice
import WarehouseSchema.Key.Foreign
import WarehouseSchema.Table.Creation
import WarehouseSchema.Alter.ColumnDiff
import WarehouseSchema.Alter.Builder
import WarehouseSchema.Insert
import WarehouseSchema.Metadata.Query
import WarehouseSchema.Metadata.Columns
import WarehouseSchema.Metadata.Keys
import WarehouseSchema.Toml.Scalar
import WarehouseSchema.Toml.Strings
import WarehouseSchema.Toml.Syntax
import WarehouseSchema.Operation
import WarehouseSchema.DataType.Encoding
import WarehouseSchema.Table.Encoding
import WarehouseSchema.Proofs.Session.Refusal
import WarehouseSchema.Proofs.Session.Rehearsal
import WarehouseSchema.Proofs.Alter.Convergence
import WarehouseSchema.Proofs.Json.Compact
import WarehouseSchema.Proofs.Json.Record
import WarehouseSchema.Proofs.Metadata.Descriptor
import WarehouseSchema.Proofs.Metadata.Identity
import WarehouseSchema.Proofs.Metadata.Report
import WarehouseSchema.Proofs.Session.Faults
import WarehouseSchema.Proofs.Session.Interruption
import WarehouseSchema.Proofs.Table.Declaration
import WarehouseSchema.Proofs.Table.PrimaryKey
import WarehouseSchema.Proofs.Table.Additions
import WarehouseSchema.Proofs.Column.Legible
import WarehouseSchema.Proofs.Table.Readability
import WarehouseSchema.Proofs.Table.Encoding
import WarehouseSchema.Proofs.Column.Equivalence
import WarehouseSchema.Proofs.Metadata.Keys
import WarehouseSchema.Proofs.Session.KeyLookup
import WarehouseSchema.Proofs.Text.Tokens
import WarehouseSchema.Proofs.Insert.Columns
import WarehouseSchema.Proofs.Insert.Tokens
import WarehouseSchema.Proofs.Alter.Parameters
import WarehouseSchema.Proofs.Alter.Reflexivity
import WarehouseSchema.Proofs.Text.Placeholders
import WarehouseSchema.Proofs.Insert.Agreement
import WarehouseSchema.Proofs.Text.Words
import WarehouseSchema.Proofs.Alter.Scale
import WarehouseSchema.Proofs.Metadata.Columns
import WarehouseSchema.Proofs.Metadata.Comment
import WarehouseSchema.Proofs.Metadata.Default
import WarehouseSchema.Proofs.Column.DefaultToken
import WarehouseSchema.Proofs.Table.KeyColumns
import WarehouseSchema.Proofs.Table.Obstacles
import WarehouseSchema.Proofs.Table.FlaggedColumn
import WarehouseSchema.Proofs.Alter.Order
import WarehouseSchema.Proofs.Metadata.Rows
import WarehouseSchema.Proofs.Metadata.Grouping
import WarehouseSchema.Proofs.Session.History
import WarehouseSchema.Proofs.Metadata.Counting
import WarehouseSchema.Proofs.Column.Validation
import WarehouseSchema.Proofs.Session.KeyChange
import WarehouseSchema.Proofs.Session.Existence
import WarehouseSchema.Proofs.Alter.Reading
