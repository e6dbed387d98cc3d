import WarehouseSchema.Proofs.Alter.Convergence
import WarehouseSchema.Proofs.Alter.Fields
import WarehouseSchema.Proofs.Metadata.Columns
import WarehouseSchema.Proofs.Metadata.Report

/-!
# Comments that the warehouse reports

A plan compares the comment that is desired with the one that was read, and no comment is not the
same as an empty one. The warehouse reports both as empty text, which is read as no comment.

## What is proved

`comment_settles_iff`: a row is read, the column is moved to a desired shape, the texts of the plan
that give or take away a comment are carried out on the row, and the row is read again. The plan for
the same shape then has no such text, unless the comment that is desired is empty: that one is given
again and again.

`TableChange.reportComment` is what a change makes of a row, as far as the comment goes, and
`AlterPlan.reportComment` what the texts of a plan do, each of them read as a change.
-/

set_option autoImplicit false

namespace WarehouseSchema

/-- What a change to a table makes of the row that reports a column, as far as the comment goes: the
text that is given is reported, and empty text where the comment is taken away. -/
def TableChange.reportComment (name : String) : TableChange → Row → Row
  | .alterColumn target (.setComment text), row =>
    if target = name then row.put "comment" (.string text) else row
  | .alterColumn target .unsetComment, row =>
    if target = name then row.put "comment" (.string "") else row
  | _, row => row

/-- What the texts of a plan make of the row that reports a column, as far as the comment goes. -/
def AlterPlan.reportComment (plan : AlterPlan) (name : String) (row : Row) : Row :=
  (plan.fragments.filterMap (TableChange.read? name)).foldl
    (fun row change => change.reportComment name row) row

/-- The texts of a plan that can be read make of the row what its changes make of it. -/
theorem AlterPlan.Legible.reportComment_eq {plan : AlterPlan} {name : String}
    (legible : plan.Legible name) (row : Row) :
    plan.reportComment name row =
      plan.changes.foldl (fun row change => change.reportComment name row) row := by
  rw [AlterPlan.reportComment, legible.filterMap_fragments]

namespace ColumnDiff

/-- Only the changes of the comment matter to it. -/
theorem foldl_reportComment (name : String) (changes : List ColumnChange) (row : Row) :
    (changes.map (TableChange.alterColumn name)).foldl
        (fun row change => change.reportComment name row) row =
      ((changes.filter fun change => change.field = .comment).map
        (TableChange.alterColumn name)).foldl
          (fun row change => change.reportComment name row) row := by
  induction changes generalizing row with
  | nil => rfl
  | cons change rest ih =>
    rw [List.map_cons, List.foldl_cons, ih]
    cases change <;> rfl

/-- A plan gives the comment that is desired where it is not the live one. -/
theorem reportComment_plan (name : String) (current desired : TypedColumn) (row : Row) :
    (plan name current desired).reportComment name row =
      if current.column.comment = desired.column.comment then row
      else row.put "comment" (.string (desired.column.comment.getD "")) := by
  -- A new name is no change of the comment.
  have renamed (row : Row) :
      (if desired.column.name = name then []
        else [TableChange.renameColumn name desired.column.name]).foldl
          (fun row change => change.reportComment name row) row = row := by
    split <;> rfl
  rw [(legible_plan name current desired).reportComment_eq, plan, AlterPlan.ofChanges,
    List.foldl_append, renamed, foldl_reportComment, filter_changes, about, commentChange]
  split
  · rfl
  · cases desired.column.comment with
    | none => exact if_pos rfl
    | some text => exact if_pos rfl

end ColumnDiff

namespace Metadata

open ColumnDiff

variable {row : Row} {column : Column}

/-- No comment that is read is empty. -/
theorem comment_ne_empty_of_columnOf (read : columnOf row = .ok column) :
    column.comment ≠ some "" := by
  rw [comment_of_columnOf read]
  intro empty
  obtain ⟨text, -, kept⟩ := Option.bind_eq_some_iff.1 empty
  unfold commentOf at kept
  split at kept
  · cases kept
  · rename_i present
    exact present (Option.some.inj kept)

/-- The row that a plan makes of the row of a column is read as the column with the comment that
comes back for the one that is desired. -/
theorem columnOf_reportComment (name : String) {current desired : TypedColumn}
    (read : columnOf row = .ok current.column) :
    columnOf ((plan name current desired).reportComment name row) =
      .ok { current.column with comment := commentOf (desired.column.comment.getD "") } := by
  rw [reportComment_plan]
  split
  · rename_i same
    -- The live comment was read, so it is not empty and comes back as it is.
    have comes : commentOf (desired.column.comment.getD "") = current.column.comment := by
      rw [← same]
      exact commentOf_getD_eq_iff.2 (comment_ne_empty_of_columnOf read)
    rw [comes, read]
  · exact columnOf_put_comment read _

/-- When the comment that a plan gives has been reported and read, the plan for the same shape
leaves the comment alone exactly where the comment that is desired is not empty. -/
theorem comment_settles_iff {table : String} {row : Row} {live : List Column} {desired : Column}
    {type : DataType} (read : columnsOf [row] = .ok live)
    (named : row.text? "column_name" = some desired.name) (wanted : desired.type = .ok type) :
    ∃ plan back again,
      AlterPlan.changeColumn table live desired.name desired = .ok plan ∧
      columnsOf [plan.reportComment desired.name row] = .ok back ∧
      AlterPlan.changeColumn table back desired.name desired = .ok again ∧
      (¬ again.Touches desired.name .comment ↔ desired.comment ≠ some "") := by
  obtain ⟨current, told, rfl⟩ := columnsOf_singleton.1 read
  obtain ⟨held, typed⟩ := exists_type_of_columnOf told
  have same : current.name = desired.name :=
    Option.some.inj ((name_of_columnOf told).symm.trans named)
  have found (comment : Option String) :
      Column.find? [{ current with comment }] desired.name = some { current with comment } := by
    apply Column.find?_cons_of_name_eq
    exact same
  refine ⟨_, _, _, AlterPlan.changeColumn_eq_ok.2
      ⟨current, held, type, found current.comment, typed, wanted, rfl⟩,
    columnsOf_singleton.2 ⟨_, columnOf_reportComment desired.name told, rfl⟩,
    AlterPlan.changeColumn_eq_ok.2 ⟨_, held, type, found _, typed, wanted, rfl⟩, ?_⟩
  rw [touches_comment_iff, not_not]
  exact commentOf_getD_eq_iff

/-- A comment in the place of another one is given once. -/
theorem comment_settles_iff_at_code :
    let live := (Column.declare "code" "varchar").withComment "old"
    let desired := (Column.declare "code" "varchar").withComment "new"
    let row := report live .varchar
    columnsOf [row] = .ok [live] ∧ row.text? "column_name" = some "code" ∧
      desired.type = .ok .varchar ∧
      ∃ plan back again,
        AlterPlan.changeColumn "orders" [live] "code" desired = .ok plan ∧
        plan.fragments = ["alter column \"code\" comment 'new'"] ∧
        columnsOf [plan.reportComment "code" row] = .ok back ∧
        AlterPlan.changeColumn "orders" back "code" desired = .ok again ∧
        ¬ again.Touches "code" .comment := by
  intro live desired row
  have reports := reports_report live .varchar
  have read : columnsOf [row] = .ok [live] :=
    columnsOf_singleton.2 ⟨live, columnOf_of_reports (by decide) (by simp [live, Column.withComment,
      Column.declare]) reports, rfl⟩
  have named : row.text? "column_name" = some "code" := text?_of_get? reports.name
  have wanted : desired.type = .ok .varchar := DataType.resolveZoned_keyword .varchar
  obtain ⟨plan, back, again, planned, reread, settled, settles⟩ :=
    comment_settles_iff read named wanted
  have given : AlterPlan.changeColumn "orders" [live] "code" desired =
      .ok (.ofChange (.alterColumn "code" (.setComment "new"))) :=
    AlterPlan.changeColumn_eq_ok.2 ⟨live, _, _, rfl, DataType.resolveZoned_keyword .varchar, wanted,
      by decide⟩
  cases given.symm.trans planned
  exact ⟨read, named, wanted, _, back, again, planned, by decide +kernel, reread, settled,
    settles.2 (by decide)⟩

/-- An empty comment is given, reported, read as none and given again. -/
theorem empty_comment_never_settles :
    let live := (Column.declare "code" "varchar").withComment "old"
    let desired := (Column.declare "code" "varchar").withComment ""
    let row := report live .varchar
    let given : AlterPlan := .ofChange (.alterColumn "code" (.setComment ""))
    columnsOf [row] = .ok [live] ∧
      AlterPlan.changeColumn "orders" [live] "code" desired = .ok given ∧
      given.fragments = ["alter column \"code\" comment ''"] ∧
      columnsOf [given.reportComment "code" row] = .ok [Column.declare "code" "varchar"] ∧
      AlterPlan.changeColumn "orders" [Column.declare "code" "varchar"] "code" desired =
        .ok given ∧
      given.Touches "code" .comment := by
  intro live desired row given
  have read : columnOf row = .ok live :=
    columnOf_of_reports (by decide) (by simp [live, Column.withComment, Column.declare])
      (reports_report live .varchar)
  have varchar : DataType.resolveZoned "varchar" false = .ok .varchar :=
    DataType.resolveZoned_keyword .varchar
  have legible : given.Legible "code" := by
    intro change mem
    cases List.mem_singleton.1 mem
    exact TableChange.read?_alterColumn "code" trivial
  refine ⟨columnsOf_singleton.2 ⟨live, read, rfl⟩, ?_, by decide +kernel, ?_, ?_, ?_⟩
  · exact AlterPlan.changeColumn_eq_ok.2 ⟨live, _, _, rfl, varchar, varchar, by decide⟩
  · rw [legible.reportComment_eq]
    exact columnsOf_singleton.2 ⟨_, columnOf_put_comment read "", rfl⟩
  · exact AlterPlan.changeColumn_eq_ok.2 ⟨_, _, _, rfl, varchar, varchar, by decide⟩
  · exact ⟨_, List.mem_cons_self, .setComment "", legible _ List.mem_cons_self, rfl⟩

end Metadata

end WarehouseSchema
