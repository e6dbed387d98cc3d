import WarehouseSchema.Alter.ColumnDiff
import WarehouseSchema.Proofs.Column.Spelled

/-!
# Plans for a column are read from their texts

What the warehouse gets of a plan is text. A text that alters the column of a name says so before
the name, and what it does to the column after it; a text that renames the column gives the new name
last. A name with a double quote in it is written as it is, so the reader is told the old name.

## What is proved

`TableChange.read?_alterColumn`, `TableChange.read?_renameColumn`: a change of the column's shape
and a change of its name are read from their texts, with all that they say: the type with its
parameters, the text of the default, the comment, the new name.

`ColumnChange.Fits` is asked of a change of the type alone: the type is spelled with parameters that
it takes. Every type that a plan for a column spells is.
-/

set_option autoImplicit false

namespace WarehouseSchema

open Statement (Token)
open Statement.Token (Reads)

/-! ## Texts that begin in a known way -/

namespace Text

/-- What stands in a text after a lead. -/
def after? (lead text : String) : Option String :=
  (lead.toList.isPrefixOf? text.toList).map String.ofList

/-- What stands after a lead is found, whatever it is. -/
theorem after?_append (lead rest : String) : after? lead (lead ++ rest) = some rest := by
  have found : lead.toList.isPrefixOf? (lead ++ rest).toList = some rest.toList := by
    rw [List.isPrefixOf?_eq_some_iff_append_eq, String.toList_append]
  rw [after?, found, Option.map_some, String.ofList_toList]

/-- A text that begins in one way does not begin in another, if neither beginning is one of the
other. -/
theorem after?_append_of_not_prefix {lead other : String} (apart : ¬ lead.toList <+: other.toList)
    (apart' : ¬ other.toList <+: lead.toList) (rest : String) :
    after? lead (other ++ rest) = none := by
  rw [after?, Option.map_eq_none_iff, Option.eq_none_iff_forall_ne_some]
  intro remaining found
  have begins : lead.toList <+: other.toList ++ rest.toList := by
    rw [← String.toList_append]
    exact ⟨remaining, List.isPrefixOf?_eq_some_iff_append_eq.1 found⟩
  exact (List.prefix_or_prefix_of_prefix begins (List.prefix_append _ _)).elim apart apart'

end Text

namespace Quoted

/-- The text of a change to the column of a name: what is done to it stands last. -/
def alteration (name action : String) : String :=
  "alter column " ++ identifier name ++ " " ++ action

/-- The text that gives the column of a name a type, which is spelled last. -/
def retyping (name type : String) : String := alteration name ("set data type " ++ type)

/-- The text that gives the column of a name another name. -/
def rename (source target : String) : String :=
  "rename column " ++ identifier source ++ " to " ++ identifier target

/-- The name between the outer double quotes of a text. -/
def name? (text : String) : Option String :=
  match text.toList with
  | [] => none
  | opening :: rest =>
    if opening = '"' ∧ rest.getLast? = some '"' then some (String.ofList rest.dropLast) else none

/-- A name is read from between its quotes, even if there are quotes in it. -/
theorem name?_identifier (name : String) : name? (identifier name) = some name := by
  have characters : (identifier name).toList = '"' :: (name.toList ++ ['"']) := by
    simp [identifier]
  rw [name?, characters]
  dsimp only
  rw [if_pos ⟨rfl, List.getLast?_concat⟩, List.dropLast_concat, String.ofList_toList]

/-- The content of a literal that is the whole of a text. -/
def content? (text : String) : Option String :=
  match Token.scan text.toList with
  | some [.literal content] => some content
  | _ => none

/-- The content of a literal is read from it, even if there are quotes in it. -/
theorem content?_literal (content : String) : content? (literal content) = some content := by
  rw [content?, (Reads.literal content).scan_eq]

/-- A text that renames a column alters none. -/
theorem after?_rename (name target : String) :
    Text.after? ("alter column " ++ identifier name ++ " ") (rename name target) = none :=
  Text.after?_append_of_not_prefix (by simp) (by simp) (identifier target)

end Quoted

/-! ## What is done to a column -/

namespace ColumnChange

/-- A change of the type spells it with parameters that the type takes. -/
def Fits : ColumnChange → Prop
  | .setType spelling => spelling.Fits
  | _ => True

/-- Reads a change from a text that says nothing else. -/
def ofFixed? (action : String) : Option ColumnChange :=
  if action = "drop default" then some .dropDefault
  else if action = "set not null" then some .setNotNull
  else if action = "drop not null" then some .dropNotNull
  else if action = "unset comment" then some .unsetComment
  else none

/-- Reads a change from the text after the name of the column. A type and a comment are read to the
end of the text, and a default is whatever stands there. -/
def read? (action : String) : Option ColumnChange :=
  ((Text.after? "set data type " action).bind fun text =>
      (TypeSpelling.read? text).map .setType).or <|
    ((Text.after? "set default " action).map .setDefault).or <|
      ((Text.after? "comment " action).bind fun text =>
          (Quoted.content? text).map .setComment).or <|
        ofFixed? action

/-- A change is read from its text, with the type, the default or the comment that it gives. -/
theorem read?_render {change : ColumnChange} (fits : change.Fits) :
    read? change.render = some change := by
  -- The readers are tried in turn: each but the right one is told off by the first word.
  cases change with
  | setType spelling =>
    show read? ("set data type " ++ spelling.render) = _
    rw [read?, Text.after?_append, Option.bind_some, TypeSpelling.read?_render fits,
      Option.map_some, Option.some_or]
  | setDefault text =>
    have noType : Text.after? "set data type " ("set default " ++ text) = none :=
      Text.after?_append_of_not_prefix (by decide +kernel) (by decide +kernel) text
    show read? ("set default " ++ text) = _
    rw [read?, noType, Text.after?_append]
    rfl
  | setComment text =>
    have noType : Text.after? "set data type " ("comment " ++ Quoted.literal text) = none :=
      Text.after?_append_of_not_prefix (by decide +kernel) (by decide +kernel) _
    have noDefault : Text.after? "set default " ("comment " ++ Quoted.literal text) = none :=
      Text.after?_append_of_not_prefix (by decide +kernel) (by decide +kernel) _
    show read? ("comment " ++ Quoted.literal text) = _
    rw [read?, noType, noDefault, Text.after?_append, Option.bind_some,
      Quoted.content?_literal]
    rfl
  | dropDefault => rfl
  | setNotNull => rfl
  | dropNotNull => rfl
  | unsetComment => rfl

end ColumnChange

/-! ## Changes to the table -/

namespace TableChange

/-- Reads what a text does to the column of a name: it alters the column or renames it. -/
def read? (name fragment : String) : Option TableChange :=
  ((Text.after? ("alter column " ++ Quoted.identifier name ++ " ") fragment).bind fun action =>
      (ColumnChange.read? action).map (.alterColumn name)).or <|
    (Text.after? ("rename column " ++ Quoted.identifier name ++ " to ") fragment).bind fun target =>
      (Quoted.name? target).map (.renameColumn name)

/-- A change of the column's shape is read from its text, whatever the name of the column. -/
theorem read?_alterColumn (name : String) {change : ColumnChange} (fits : change.Fits) :
    read? name (TableChange.alterColumn name change).render = some (.alterColumn name change) := by
  show read? name ("alter column " ++ Quoted.identifier name ++ " " ++ change.render) = _
  rw [read?, Text.after?_append, Option.bind_some, ColumnChange.read?_render fits]
  rfl

/-- A new name of the column is read from its text, whatever the two names. -/
theorem read?_renameColumn (name target : String) :
    read? name (TableChange.renameColumn name target).render =
      some (.renameColumn name target) := by
  have noAlteration := Quoted.after?_rename name target
  have named : Text.after? ("rename column " ++ Quoted.identifier name ++ " to ")
      (Quoted.rename name target) = some (Quoted.identifier target) :=
    Text.after?_append _ _
  show read? name (Quoted.rename name target) = _
  rw [read?, noAlteration, named, Option.bind_none, Option.none_or, Option.bind_some,
    Quoted.name?_identifier, Option.map_some]

end TableChange

namespace AlterPlan

/-- The texts of the changes of a plan, in order. -/
def fragments (plan : AlterPlan) : List String := plan.changes.map TableChange.render

/-- A plan whose texts are all read as what was written. -/
def Legible (plan : AlterPlan) (name : String) : Prop :=
  ∀ change ∈ plan.changes, TableChange.read? name change.render = some change

namespace Legible

variable {plan : AlterPlan} {name : String}

/-- All changes are read from the texts, in order. -/
theorem mapM_fragments (legible : plan.Legible name) :
    plan.fragments.mapM (TableChange.read? name) = some plan.changes := by
  obtain ⟨changes, followUps⟩ := plan
  unfold Legible fragments at *
  dsimp only at *
  induction changes with
  | nil => rfl
  | cons change rest ih =>
    obtain ⟨first, others⟩ := List.forall_mem_cons.1 legible
    rw [List.map_cons, List.mapM_cons, first, ih others]
    rfl

/-- Where all texts can be read, the changes among them are all changes. -/
theorem filterMap_fragments (legible : plan.Legible name) :
    plan.fragments.filterMap (TableChange.read? name) = plan.changes := by
  rw [fragments, List.filterMap_map]
  exact (List.filterMap_congr legible).trans List.filterMap_some

/-- A text of the plan is that of one change. -/
theorem mem_fragments_iff (legible : plan.Legible name) {change : TableChange}
    (reads : TableChange.read? name change.render = some change) :
    change.render ∈ plan.fragments ↔ change ∈ plan.changes := by
  constructor
  · intro mem
    obtain ⟨other, among, same⟩ := List.mem_map.1 mem
    have told := legible other among
    rw [same, reads] at told
    rw [Option.some.inj told]
    exact among
  · exact fun among => List.mem_map_of_mem among

end Legible

end AlterPlan

end WarehouseSchema
