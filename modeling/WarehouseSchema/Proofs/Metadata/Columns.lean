import WarehouseSchema.Metadata.Columns
import WarehouseSchema.Proofs.DataType.Spelling
import WarehouseSchema.Proofs.Traversal

/-!
# What a row that can be read tells

A row is read where it names the column and its type descriptor, the descriptor can be parsed, and
the type that it reports is known. `columnOf_eq_ok` says so, and which column is read then; whatever
else the row holds is read as far as it is there and refuses nothing.
-/

set_option autoImplicit false

namespace WarehouseSchema

namespace Row

/-- The row with a value under a name, in the place of an earlier one. -/
def put (row : Row) (name : String) (value : Json) : Row :=
  ⟨Json.insertMember name value row.fields, Json.ordered_insertMember row.ordered⟩

/-- What was put into a row is found there, and all else is found as before. -/
theorem get?_put (row : Row) (name : String) (value : Json) (wanted : String) :
    (row.put name value).get? wanted = if wanted = name then some value else row.get? wanted :=
  Json.member?_insertMember name value row.fields wanted

/-- A text that was put into a row is found there, and all else is found as before. -/
theorem text?_put (row : Row) (name text wanted : String) :
    (row.put name (.string text)).text? wanted =
      if wanted = name then some text else row.text? wanted := by
  rw [text?, get?_put]
  by_cases same : wanted = name
  · rw [if_pos same, if_pos same]
  · rw [if_neg same, if_neg same, text?]

end Row

namespace Metadata

/-- The comment that a reported text tells of. -/
def commentOf (text : String) : Option String := if text = "" then none else some text

/-- A comment that is given comes back, unless it is empty. -/
theorem commentOf_getD_eq_iff {comment : Option String} :
    commentOf (comment.getD "") = comment ↔ comment ≠ some "" := by
  cases comment with
  | none => simp [commentOf]
  | some text => by_cases empty : text = "" <;> simp [commentOf, empty]

/-- The column that a row tells of, when its name, its type and its descriptor have been read. -/
def columnFrom (row : Row) (name : String) (type : DataType) (descriptor : Descriptor) : Column :=
  { declaredAs name type descriptor with
    nullable :=
      (descriptor.nullable.or ((row.text? "null?").bind Keyword.nullFlag?)).getD true
    default := (row.text? "default").bind defaultOf
    identity :=
      ((row.text? "autoincrement").filter fun text => Text.trim text != "").map identityOf
    comment := (row.text? "comment").bind commentOf }

/-- Empty text is read as no comment. -/
theorem filter_ne_empty (text : Option String) :
    text.filter (fun text => text != "") = text.bind commentOf := by
  cases text with
  | none => rfl
  | some text =>
    rw [Option.filter_some, Option.bind_some, commentOf]
    simp only [bne_iff_ne, ne_eq, ite_not]

/-- A row that names the column and its descriptor is read by what the descriptor says. -/
theorem columnOf_of_described {row : Row} {name dataType : String}
    (named : row.text? "column_name" = some name)
    (described : row.text? "data_type" = some dataType) :
    columnOf row = (Descriptor.parse dataType).bind fun descriptor =>
      ((DataType.ofReported descriptor.type).mapError .unknownType).map fun type =>
        columnFrom row name type descriptor := by
  rw [columnOf, ReportedColumn.ofRow, named, described]
  simp only [Except.bind, ReportedColumn.column, filter_ne_empty]
  cases Descriptor.parse dataType with
  | error cause => rfl
  | ok descriptor =>
    dsimp only [bind, Except.bind]
    cases DataType.ofReported descriptor.type <;> rfl

/-- Which rows are read, and as which columns. -/
theorem columnOf_eq_ok {row : Row} {column : Column} :
    columnOf row = .ok column ↔ ∃ name dataType descriptor type,
      row.text? "column_name" = some name ∧ row.text? "data_type" = some dataType ∧
        Descriptor.parse dataType = .ok descriptor ∧
          DataType.ofReported descriptor.type = .ok type ∧
            columnFrom row name type descriptor = column := by
  cases named : row.text? "column_name" with
  | none => simp [columnOf, ReportedColumn.ofRow, named, Except.bind]
  | some name =>
    cases described : row.text? "data_type" with
    | none => simp [columnOf, ReportedColumn.ofRow, named, described, Except.bind]
    | some dataType =>
      rw [columnOf_of_described named described]
      cases parsed : Descriptor.parse dataType with
      | error cause => simp [Except.bind, parsed]
      | ok descriptor =>
        cases known : DataType.ofReported descriptor.type with
        | error unknown => simp [Except.bind, parsed, known, Except.mapError, Except.map]
        | ok type => simp [Except.bind, parsed, known, Except.mapError, Except.map]

/-- One row is read as one column. -/
theorem columnsOf_singleton {row : Row} {live : List Column} :
    columnsOf [row] = .ok live ↔ ∃ column, columnOf row = .ok column ∧ live = [column] := by
  rw [columnsOf, Traversal.mapM_eq_ok]
  constructor
  · rintro (_ | ⟨read, ⟨⟩⟩)
    exact ⟨_, read, rfl⟩
  · rintro ⟨column, read, rfl⟩
    exact .cons read .nil

variable {row : Row} {column : Column}

/-- A column that was read has the name that its row gives. -/
theorem name_of_columnOf (read : columnOf row = .ok column) :
    row.text? "column_name" = some column.name := by
  obtain ⟨name, dataType, descriptor, type, named, -, -, -, rfl⟩ := columnOf_eq_ok.1 read
  have declared : (declaredAs name type descriptor).name = name := by
    unfold declaredAs
    split <;> rfl
  exact named.trans (congrArg some declared.symm)

/-- A column is read under the keyword of its type, and the keyword means the type again. -/
theorem type_columnFrom (row : Row) (name : String) (type : DataType) (descriptor : Descriptor) :
    (columnFrom row name type descriptor).type = .ok type := by
  have declared : (declaredAs name type descriptor).typeName = type.keyword ∧
      (declaredAs name type descriptor).zoned = false := by
    unfold declaredAs
    split <;> exact ⟨rfl, rfl⟩
  show DataType.resolveZoned (declaredAs name type descriptor).typeName
    (declaredAs name type descriptor).zoned = .ok type
  rw [declared.1, declared.2, DataType.resolveZoned_keyword]

/-- A column that was read has a known type. -/
theorem exists_type_of_columnOf (read : columnOf row = .ok column) :
    ∃ type, column.type = .ok type := by
  obtain ⟨name, dataType, descriptor, type, -, -, -, -, rfl⟩ := columnOf_eq_ok.1 read
  exact ⟨type, type_columnFrom row name type descriptor⟩

/-- The default of a column that was read is told by the text in its row. -/
theorem default_of_columnOf (read : columnOf row = .ok column) :
    column.default = (row.text? "default").bind defaultOf := by
  obtain ⟨name, dataType, descriptor, type, -, -, -, -, rfl⟩ := columnOf_eq_ok.1 read
  rfl

/-- The comment of a column that was read is told by the text in its row. -/
theorem comment_of_columnOf (read : columnOf row = .ok column) :
    column.comment = (row.text? "comment").bind commentOf := by
  obtain ⟨name, dataType, descriptor, type, -, -, -, -, rfl⟩ := columnOf_eq_ok.1 read
  rfl

/-! ## Rows that are given another text -/

/-- A row keeps its name, its type and its descriptor when it is given the text of another field. -/
theorem columnOf_put (read : columnOf row = .ok column) (field text : String)
    (noName : "column_name" ≠ field) (noType : "data_type" ≠ field) :
    ∃ name type descriptor, columnFrom row name type descriptor = column ∧
      columnOf (row.put field (.string text)) =
        .ok (columnFrom (row.put field (.string text)) name type descriptor) := by
  obtain ⟨name, dataType, descriptor, type, named, described, parsed, known, made⟩ :=
    columnOf_eq_ok.1 read
  refine ⟨name, type, descriptor, made, columnOf_eq_ok.2
    ⟨name, dataType, descriptor, type, ?_, ?_, parsed, known, rfl⟩⟩
  · rw [Row.text?_put, if_neg noName, named]
  · rw [Row.text?_put, if_neg noType, described]

/-- Another comment in the row is another comment of the column, and nothing else. -/
theorem columnOf_put_comment (read : columnOf row = .ok column) (text : String) :
    columnOf (row.put "comment" (.string text)) =
      .ok { column with comment := commentOf text } := by
  obtain ⟨name, type, descriptor, rfl, again⟩ :=
    columnOf_put read "comment" text (by decide) (by decide)
  rw [again]
  simp [columnFrom, Row.text?_put]

/-- Another default in the row is another default of the column, and nothing else. -/
theorem columnOf_put_default (read : columnOf row = .ok column) (text : String) :
    columnOf (row.put "default" (.string text)) =
      .ok { column with default := defaultOf text } := by
  obtain ⟨name, type, descriptor, rfl, again⟩ :=
    columnOf_put read "default" text (by decide) (by decide)
  rw [again]
  simp [columnFrom, Row.text?_put]

end Metadata

end WarehouseSchema
