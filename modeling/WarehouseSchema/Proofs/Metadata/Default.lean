import WarehouseSchema.Proofs.Alter.Convergence
import WarehouseSchema.Proofs.Alter.Fields
import WarehouseSchema.Proofs.Column.Literal
import WarehouseSchema.Proofs.Metadata.Columns
import WarehouseSchema.Proofs.Metadata.Report
import WarehouseSchema.Proofs.Text.Literals

/-!
# Defaults that the warehouse reports

A default is written for the type of its column and reported as it was written. The text is read
without the type, and what is read is seldom the default that was written: a number in quotes comes
back as a string, and null as an expression. A plan compares what is written, so only the text has
to come back.

## What is proved

`literal_default_survives_metadata`: the text of a literal default, for every value and every type
but the two that write it bare, is read as a default with the same text, and a plan for the column
that was created with it leaves the default alone.

`quoted_default_stays_quoted_iff`: a string literal that is reported is written as that literal
again exactly where its string calls no function. A string that does is written as the call.

`LiteralText` lists the ways to write a literal, and each of them is read back on its own.
-/

set_option autoImplicit false

namespace WarehouseSchema

namespace Metadata

open Keyword

variable {type : DataType}

/-! ## Reading the text of a default -/

/-- A literal is read as the string that it was made from. -/
theorem defaultOf_literal (text : String) :
    defaultOf (Quoted.literal text) = some (.literal (.string text)) :=
  defaultOf_of_unquote? (Quoted.unquote?_literal text)

/-- A truth value is read as itself. -/
theorem defaultOf_ofBool (b : Bool) : defaultOf (ofBool b) = some (.literal (.bool b)) := by
  have present : ofBool b ≠ "" := by cases b <;> decide
  rw [defaultOf, if_neg present, truthValue?_ofBool]

/-- A call is kept as an expression: it is not empty, and it names no truth value and opens no
quote. -/
theorem defaultOf_of_isFunctionCall {text : String} (call : isFunctionCall text = true) :
    defaultOf text = some (.expression text) := by
  have present : text ≠ "" := by
    rintro rfl
    exact absurd call (by decide +kernel)
  have unquoted : Quoted.unquote? text = none := by
    unfold Quoted.unquote?
    split
    · rfl
    · rename_i c rest opens
      refine if_neg fun quoted => ?_
      have noCall := isFunctionCall_of_opening opens (by rw [quoted.1]; decide)
        (by rw [quoted.1]; decide)
      rw [call] at noCall
      cases noCall
  rw [defaultOf, if_neg present, truthValue?_of_isFunctionCall call, unquoted]

/-! ## The texts of literals -/

/-- How a literal is written for a type that does not write it bare. -/
inductive LiteralText (type : DataType) : String → Prop where
  | null : LiteralText type "null"
  | call {text : String} (call : isFunctionCall text = true) : LiteralText type text
  | truth (b : Bool) (unquoted : type.family.hasQuotedLiterals = false) :
      LiteralText type (ofBool b)
  | quoted {text : String} (noCall : isFunctionCall text = false)
      (noTruth : type.family = .boolean → truthValue? text = none) :
      LiteralText type (Quoted.literal text)

/-- Every literal is written in one of these ways. -/
theorem LiteralText.render (notBare : type.family.hasBareLiterals = false) (value : Json) :
    LiteralText type ((ColumnDefault.literal value).render type) := by
  rcases type.render_literal_cases value with
    null | ⟨b, unquoted, truth⟩ | ⟨text, -, string⟩
  · rw [null]
    exact .null
  · rw [truth]
    exact .truth b unquoted
  · rw [string]
    cases calls : isFunctionCall text with
    | true =>
      rw [DataType.literalText_of_isFunctionCall calls]
      exact .call calls
    | false =>
      rcases DataType.literalText_string_cases notBare calls with
        ⟨b, boolean, -, truth⟩ | ⟨noTruth, quoted⟩
      · rw [truth]
        exact .truth b (by rw [boolean]; rfl)
      · rw [quoted]
        exact .quoted calls noTruth

/-- The text of a literal is read as a default that is written as the text. -/
theorem LiteralText.exists_defaultOf {text : String}
    (notBare : type.family.hasBareLiterals = false) (written : LiteralText type text) :
    ∃ default, defaultOf text = some default ∧ default.render type = text := by
  cases written with
  | null => exact ⟨.expression "null", rfl, rfl⟩
  | call call => exact ⟨_, defaultOf_of_isFunctionCall call, rfl⟩
  | truth b unquoted =>
    refine ⟨_, defaultOf_ofBool b, ?_⟩
    show (if type.family.hasQuotedLiterals then _ else ofBool b) = ofBool b
    rw [unquoted, if_neg Bool.false_ne_true]
  | @quoted text noCall noTruth =>
    exact ⟨_, defaultOf_literal text, DataType.literalText_eq_literal notBare noCall noTruth⟩

/-! ## Defaults that come back -/

/-- A plan changes the default of a column where the two are not written alike. -/
theorem changeColumn_touches_default_iff (table : String) {name : String} {live : List Column}
    {current desired : Column} {held : DataType} (found : Column.find? live name = some current)
    (holds : current.type = .ok held) (wanted : desired.type = .ok type) :
    ∃ plan, AlterPlan.changeColumn table live name desired = .ok plan ∧
      (plan.Touches name .default ↔ current.defaultText held ≠ desired.defaultText type) :=
  ⟨_, AlterPlan.changeColumn_eq_ok.2 ⟨current, held, type, found, holds, wanted, rfl⟩,
    ColumnDiff.touches_default_iff⟩

/-- The text that a literal default is written as is read as a default that is written as this text,
and a plan leaves the default of a column alone that was created with the literal and read since. -/
theorem literal_default_survives_metadata (noNumber : type ≠ .number) (noFloat : type ≠ .float)
    (value : Json) :
    (∃ default, defaultOf ((ColumnDefault.literal value).render type) = some default ∧
      default.render type = (ColumnDefault.literal value).render type) ∧
    ∀ (table name : String) (row : Row) (live : List Column) (current desired : Column)
        (held : DataType),
      columnOf row = .ok current →
      row.text? "default" = some ((ColumnDefault.literal value).render type) →
      Column.find? live name = some current → current.type = .ok held →
      held.stored = type.stored → desired.type = .ok type →
      desired.default = some (.literal value) →
      ∃ plan, AlterPlan.changeColumn table live name desired = .ok plan ∧
        ¬ plan.Touches name .default := by
  -- Numbers and floats are all the types with bare literals.
  have notBare : type.family.hasBareLiterals = false := by cases type <;> trivial
  obtain ⟨default, reads, written⟩ :=
    (LiteralText.render notBare value).exists_defaultOf notBare
  refine ⟨⟨default, reads, written⟩, ?_⟩
  intro table name row live current desired held read reported found holds stored wanted given
  obtain ⟨plan, planned, touches⟩ := changeColumn_touches_default_iff table found holds wanted
  refine ⟨plan, planned, fun touched => touches.1 touched ?_⟩
  have kept : current.default = some default := by
    rw [default_of_columnOf read, reported, Option.bind_some, reads]
  rw [Column.defaultText, Column.defaultText, kept, given, Option.map_some, Option.map_some,
    default.render_congr (DataType.family_eq_of_stored_eq stored), written]

/-- A truth value of a text is kept as a string, and written as one again. -/
theorem literal_default_survives_metadata_at_code :
    let desired := (Column.declare "code" "varchar").withDefault (.literal (.bool true))
    let current := (Column.declare "code" "varchar").withDefault (.literal (.string "true"))
    let row := (report (Column.declare "code" "varchar") .varchar).put "default" (.string "'true'")
    columnOf row = .ok current ∧
      row.text? "default" = some ((ColumnDefault.literal (.bool true)).render .varchar) ∧
      ∃ plan, AlterPlan.changeColumn "orders" [current] "code" desired = .ok plan ∧
        ¬ plan.Touches "code" .default := by
  intro desired current row
  have plain : columnOf (report (Column.declare "code" "varchar") .varchar) =
      .ok (Column.declare "code" "varchar") :=
    columnOf_of_reports (by decide) (by simp [Column.declare]) (reports_report _ .varchar)
  have read : columnOf row = .ok current := columnOf_put_default plain "'true'"
  have reported : row.text? "default" =
      some ((ColumnDefault.literal (.bool true)).render .varchar) := by
    rw [Row.text?_put, if_pos rfl]
    decide +kernel
  have varchar : DataType.resolveZoned "varchar" false = .ok .varchar :=
    DataType.resolveZoned_keyword .varchar
  exact ⟨read, reported,
    (literal_default_survives_metadata (by decide) (by decide) (.bool true)).2 "orders" "code" row
      [current] current desired .varchar read reported rfl varchar rfl varchar rfl⟩

/-- Where literals are quoted, a string is written in quotes exactly where it calls no function. -/
theorem literalText_string_of_quoted (quoted : type.family.hasQuotedLiterals = true)
    (text : String) :
    type.literalText (.string text) =
      if isFunctionCall text then text else Quoted.literal text := by
  have others : type.family.hasBareLiterals = false ∧ type.family ≠ .boolean := by
    revert quoted
    cases type <;> decide
  split
  · rename_i call
    exact DataType.literalText_of_isFunctionCall call
  · rename_i noCall
    exact DataType.literalText_eq_literal others.1 (Bool.eq_false_iff.2 noCall)
      fun boolean => absurd boolean others.2

/-- No literal is the text of a call. -/
theorem literal_ne_of_isFunctionCall {call : String} (calls : isFunctionCall call = true)
    (text : String) : Quoted.literal text ≠ call := by
  rintro rfl
  rw [isFunctionCall_literal] at calls
  cases calls

/-- A string literal that is reported is written as this literal again exactly where its string
calls no function, and a plan that gives a call as the default changes the default exactly where the
call is not the string of the literal. -/
theorem quoted_default_stays_quoted_iff (quoted : type.family.hasQuotedLiterals = true)
    (text : String) :
    (∃ default, defaultOf (Quoted.literal text) = some default ∧
      (default.render type = Quoted.literal text ↔ isFunctionCall text = false)) ∧
    ∀ (table name call : String) (live : List Column) (current desired : Column) (held : DataType),
      Column.find? live name = some current → current.type = .ok held →
      held.family.hasQuotedLiterals = true →
      current.default = defaultOf (Quoted.literal text) → desired.type = .ok type →
      desired.defaultText type = some call → isFunctionCall call = true →
      ∃ plan, AlterPlan.changeColumn table live name desired = .ok plan ∧
        (plan.Touches name .default ↔ call ≠ text) := by
  have render {type : DataType} (quoted : type.family.hasQuotedLiterals = true) :
      (ColumnDefault.literal (.string text)).render type =
        if isFunctionCall text then text else Quoted.literal text :=
    literalText_string_of_quoted quoted text
  rw [defaultOf_literal]
  constructor
  · refine ⟨_, rfl, ?_⟩
    rw [render quoted]
    cases calls : isFunctionCall text with
    | true => simpa using (literal_ne_of_isFunctionCall calls text).symm
    | false => simp
  · intro table name call live current desired held found holds quotes kept wanted given calls
    obtain ⟨plan, planned, touches⟩ := changeColumn_touches_default_iff table found holds wanted
    refine ⟨plan, planned, touches.trans (not_congr ?_)⟩
    rw [given, Column.defaultText, kept, Option.map_some, render quotes, Option.some.injEq]
    -- The string is compared as the call that it is, or else as a literal, which is no call.
    split
    · exact eq_comm
    · rename_i noCall
      refine iff_of_false (literal_ne_of_isFunctionCall calls text) ?_
      rintro rfl
      exact noCall calls

/-- A string that is no call stays in quotes, and a plan that gives a call changes it. -/
theorem quoted_default_stays_quoted_iff_at_code :
    let live := (Column.declare "code" "varchar").withDefault (.literal (.string "new"))
    let desired := (Column.declare "code" "varchar").withDefault (.expression "sysdate()")
    DataType.varchar.family.hasQuotedLiterals = true ∧
      (∃ default, defaultOf (Quoted.literal "new") = some default ∧
        default.render .varchar = Quoted.literal "new") ∧
      isFunctionCall "sysdate()" = true ∧
      ∃ plan, AlterPlan.changeColumn "orders" [live] "code" desired = .ok plan ∧
        plan.Touches "code" .default := by
  intro live desired
  have quoted : DataType.varchar.family.hasQuotedLiterals = true := rfl
  have noCall : isFunctionCall "new" = false := by decide +kernel
  have calls : isFunctionCall "sysdate()" = true := by decide +kernel
  have varchar : DataType.resolveZoned "varchar" false = .ok .varchar :=
    DataType.resolveZoned_keyword .varchar
  obtain ⟨⟨default, reads, stays⟩, compared⟩ := quoted_default_stays_quoted_iff quoted "new"
  obtain ⟨plan, planned, touches⟩ := compared "orders" "code" "sysdate()" [live] live desired
    .varchar rfl varchar quoted (defaultOf_literal "new").symm varchar rfl calls
  exact ⟨quoted, ⟨default, reads, stays.2 noCall⟩, calls, plan, planned, touches.2 (by decide)⟩

/-- A string literal with the text of a call is written as the call, and counts as the same
default. -/
theorem quoted_call_is_written_bare :
    let live := (Column.declare "code" "varchar").withDefault (.literal (.string "sysdate()"))
    let desired := (Column.declare "code" "varchar").withDefault (.expression "sysdate()")
    Quoted.literal "sysdate()" = "'sysdate()'" ∧ defaultOf "'sysdate()'" = live.default ∧
      live.defaultText .varchar = some "sysdate()" ∧
      AlterPlan.changeColumn "orders" [live] "code" desired = .ok .empty := by
  intro live desired
  have varchar : DataType.resolveZoned "varchar" false = .ok .varchar :=
    DataType.resolveZoned_keyword .varchar
  have written : Quoted.literal "sysdate()" = "'sysdate()'" := by decide
  have calls : isFunctionCall "sysdate()" = true := by decide +kernel
  have bare : live.defaultText .varchar = some "sysdate()" := by
    show some (DataType.varchar.literalText (.string "sysdate()")) = _
    rw [literalText_string_of_quoted rfl, if_pos calls]
  refine ⟨written, ?_, bare, ?_⟩
  · rw [← written]
    exact defaultOf_literal "sysdate()"
  · exact AlterPlan.changeColumn_eq_ok.2
      ⟨live, .varchar, .varchar, rfl, varchar, varchar, by decide +kernel⟩

end Metadata

end WarehouseSchema
