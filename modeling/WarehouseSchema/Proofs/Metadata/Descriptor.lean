import WarehouseSchema.Column.Encoding
import WarehouseSchema.Metadata.Descriptor
import WarehouseSchema.Proofs.Json.Compact
import WarehouseSchema.Proofs.Json.Record

/-!
# Type descriptors are read as they are reported

A descriptor is reported as the compact text of an object that has a member for each parameter with
a value, among any other members. Whatever else the object holds, the descriptor is read back.
-/

set_option autoImplicit false

namespace WarehouseSchema

open JsonText

/-! ## Values of single documents -/

namespace Json

theorem membersAreWhole_of_forall {members : List (String × Json)}
    (whole : ∀ member ∈ members, member.2.isWhole = true) : membersAreWhole members = true := by
  induction members with
  | nil => rfl
  | cons head rest ih =>
    rw [membersAreWhole, whole head List.mem_cons_self,
      ih fun member mem => whole member (List.mem_cons_of_mem _ mem)]
    rfl

/-- Members are read as their names with their documents. -/
theorem memberDocuments_eq_map (members : List (String × Json)) :
    memberDocuments members = members.map fun member => (some member.1, member.2.document) := by
  induction members with
  | nil => rfl
  | cons head rest ih => rw [memberDocuments, ih, List.map_cons]

theorem toJson?_numberJson (n : UInt32) :
    (Column.numberJson n).document.toJson? = some (Column.numberJson n) := by
  have nonneg : -(Decimal.twoTo 63 : Int) ≤ n.toNat := by omega
  have small : (n.toNat : Int) < Decimal.twoTo 64 :=
    Int.ofNat_lt.2 (Nat.lt_trans n.toNat_lt (by decide))
  have value : (Numeral.ofInteger n.toNat).toNumber? = some (.integer n.toNat) :=
    Numeral.toNumber?_ofInteger nonneg small
  rw [Column.numberJson, ofInt, document, Document.toJson?, value, Option.map_some]

end Json

namespace Metadata.Descriptor

/-- A text that spells no descriptor is reported as it is. -/
theorem parse_eq_error_iff {text : String} {failure : SchemaError} :
    parse text = .error failure ↔
      (¬ ∃ descriptor, parse text = .ok descriptor) ∧
        failure = .metadata (.unreadableType text) := by
  unfold parse
  cases (JsonText.Document.parse? text.toList).bind ofDocument? with
  | none => simp [eq_comm]
  | some descriptor => simp

/-! ## The members of a descriptor -/

/-- The members that a descriptor is reported by: one for each parameter that has a value. -/
def members (descriptor : Descriptor) : List (String × Json) :=
  [("type", .string descriptor.type)] ++
    Json.memberIfSome "precision" Column.numberJson descriptor.precision ++
    Json.memberIfSome "scale" Column.numberJson descriptor.scale ++
    Json.memberIfSome "length" Column.numberJson descriptor.length ++
    Json.memberIfSome "nullable" .bool descriptor.nullable ++
    Json.memberIfSome "collation" .string descriptor.collation

/-- The text that a descriptor is reported by, with further members. -/
def text (descriptor : Descriptor) (further : List (String × Json)) : String :=
  (Json.ofMembers (descriptor.members ++ further)).compact

/-- Every member of a descriptor is whole and has its value in a document. -/
theorem valued_of_mem_members {descriptor : Descriptor} {member : String × Json}
    (mem : member ∈ descriptor.members) :
    member.2.isWhole = true ∧ member.2.document.toJson? = some member.2 := by
  simp only [members, List.mem_append, List.mem_singleton] at mem
  rcases mem with ((((rfl | mem) | mem) | mem) | mem) | mem
  · exact ⟨rfl, rfl⟩
  all_goals
    obtain ⟨value, -, rfl⟩ := Json.mem_memberIfSome mem
    first
      | exact ⟨rfl, Json.toJson?_numberJson value⟩
      | exact ⟨rfl, rfl⟩

/-- What is found under the names of the fields: what the descriptor has, and nothing of the further
members. -/
structure Holds (fields : List (String × Json)) (descriptor : Descriptor) : Prop where
  type : Json.member? fields "type" = some (.string descriptor.type)
  precision : Json.member? fields "precision" = descriptor.precision.map Column.numberJson
  scale : Json.member? fields "scale" = descriptor.scale.map Column.numberJson
  length : Json.member? fields "length" = descriptor.length.map Column.numberJson
  nullable : Json.member? fields "nullable" = descriptor.nullable.map .bool
  collation : Json.member? fields "collation" = descriptor.collation.map .string

/-- Further members of other names do not hide a field. -/
theorem member?_orderMembers_members {descriptor : Descriptor} {further : List (String × Json)}
    {name : String} (absent : ∀ member ∈ further, member.1 ≠ name) :
    Json.member? (Json.orderMembers (descriptor.members ++ further)) name =
      Json.member? descriptor.members.reverse name := by
  have none : Json.member? further.reverse name = none :=
    Json.member?_eq_none fun member mem => absent member (List.mem_reverse.1 mem)
  rw [Json.member?_orderMembers, List.reverse_append, Json.member?_append, none, Option.none_or]

/-- The members of a descriptor hold its fields among any others, in whichever order they stand. -/
theorem holds_orderMembers (descriptor : Descriptor) {further : List (String × Json)}
    (others : ∀ member ∈ further, member.1 ∉ fieldNames) :
    Holds (Json.orderMembers (descriptor.members ++ further)) descriptor := by
  have found : ∀ name ∈ fieldNames,
      Json.member? (Json.orderMembers (descriptor.members ++ further)) name =
        Json.member? descriptor.members.reverse name := by
    intro name known
    refine member?_orderMembers_members fun member mem same => ?_
    exact others member mem (same ▸ known)
  constructor
  all_goals
    rw [found _ (by decide)]
    simp [members, Json.member?_append, Json.reverse_memberIfSome, Json.member?_memberIfSome,
      Json.member?_cons, Json.member?_nil]

/-- What is found among all members is found among the fields. -/
theorem Holds.fields {members : List (String × Json)} {descriptor : Descriptor}
    (holds : Holds members descriptor) :
    Holds (members.filter fun member => fieldNames.contains member.1) descriptor where
  type := (Json.member?_filter (by decide) members).trans holds.type
  precision := (Json.member?_filter (by decide) members).trans holds.precision
  scale := (Json.member?_filter (by decide) members).trans holds.scale
  length := (Json.member?_filter (by decide) members).trans holds.length
  nullable := (Json.member?_filter (by decide) members).trans holds.nullable
  collation := (Json.member?_filter (by decide) members).trans holds.collation

/-- A descriptor is read from an object that holds its fields. -/
theorem read_of_holds {fields : List (String × Json)} {descriptor : Descriptor}
    (holds : Holds fields descriptor) : reader.read (.object fields) = some descriptor := by
  have parameter : Json.ReadsBack Column.numberJson Json.uint32? := Json.uint32?_ofInt
  have number (name : String) (value : Option UInt32)
      (found : Json.member? fields name = value.map Column.numberJson) :
      RecordReader.withDefault name none (Json.nullable? Json.uint32?) (.members fields) =
        some (value, .members fields) :=
    RecordReader.optional_members found (parameter.nullable fun _ => Json.noConfusion)
  have type : RecordReader.required "type" Json.string? (.members fields) =
      some (descriptor.type, .members fields) :=
    RecordReader.required_members holds.type rfl
  have nullable : RecordReader.withDefault "nullable" none (Json.nullable? Json.bool?)
      (.members fields) = some (descriptor.nullable, .members fields) :=
    RecordReader.optional_members holds.nullable fun _ => rfl
  have collation : RecordReader.withDefault "collation" none (Json.nullable? Json.string?)
      (.members fields) = some (descriptor.collation, .members fields) :=
    RecordReader.optional_members holds.collation fun _ => rfl
  rw [RecordReader.read, reader, RecordReader.bind_of_taken type,
    RecordReader.bind_of_taken (number _ _ holds.precision),
    RecordReader.bind_of_taken (number _ _ holds.scale),
    RecordReader.bind_of_taken (number _ _ holds.length), RecordReader.bind_of_taken nullable,
    RecordReader.bind_of_taken collation]
  rfl

/-! ## The fields of an object -/

/-- Names without a lone surrogate are all read. -/
theorem mapM_named? (members : List (String × Json)) :
    (members.map fun member => (some member.1, member.2.document)).mapM named? =
      some (members.map fun member => (member.1, member.2.document)) := by
  induction members with
  | nil => rfl
  | cons head rest ih =>
    rw [List.map_cons, List.mapM_cons, ih]
    rfl

/-- Values that are read back are all read. -/
theorem mapM_valued? {members : List (String × Json)}
    (valued : ∀ member ∈ members, member.2.document.toJson? = some member.2) :
    (members.map fun member => (member.1, member.2.document)).mapM valued? = some members := by
  induction members with
  | nil => rfl
  | cons head rest ih =>
    have first : valued? (head.1, head.2.document) = some head := by
      rw [valued?, valued head List.mem_cons_self]
      rfl
    rw [List.map_cons, List.mapM_cons, first,
      ih fun member mem => valued member (List.mem_cons_of_mem _ mem)]
    rfl

/-- The fields of an object are its members of these names, if no name stands twice and each of them
has a value. -/
theorem fields?_memberDocuments {members : List (String × Json)}
    (distinct : (members.map Prod.fst).Nodup)
    (valued : ∀ member ∈ members, member.1 ∈ fieldNames →
      member.2.document.toJson? = some member.2) :
    fields? (Json.memberDocuments members) =
      some (members.filter fun member => fieldNames.contains member.1) := by
  have known : ((members.map fun member => (member.1, member.2.document)).filter
      fun member => fieldNames.contains member.1) =
        (members.filter fun member => fieldNames.contains member.1).map
          fun member => (member.1, member.2.document) := by
    rw [List.filter_map]
    rfl
  -- A name that stands twice is an error only among the names of fields.
  have once : (((members.filter fun member => fieldNames.contains member.1).map
      fun member => (member.1, member.2.document)).map (·.1)).Nodup := by
    rw [List.map_map]
    exact distinct.sublist (List.filter_sublist.map Prod.fst)
  rw [Json.memberDocuments_eq_map, fields?, mapM_named?, Option.bind_some, known]
  dsimp only
  rw [if_pos once]
  apply mapM_valued?
  intro member mem
  obtain ⟨mem, field⟩ := List.mem_filter.1 mem
  exact valued member mem (List.contains_iff_mem.1 field)

/-- A descriptor is read from the text that it is reported by, whatever further members stand in
it. -/
theorem parse_text (descriptor : Descriptor) {further : List (String × Json)}
    (others : ∀ member ∈ further, member.1 ∉ fieldNames)
    (whole : ∀ member ∈ further, member.2.isWhole = true) :
    parse (descriptor.text further) = .ok descriptor := by
  have cases_mem : ∀ member ∈ Json.orderMembers (descriptor.members ++ further),
      member ∈ descriptor.members ∨ member ∈ further :=
    fun member mem => List.mem_append.1 (Json.mem_orderMembers mem)
  have allWhole : (Json.ofMembers (descriptor.members ++ further)).isWhole = true := by
    apply Json.membersAreWhole_of_forall
    intro member mem
    rcases cases_mem member mem with own | other
    · exact (valued_of_mem_members own).1
    · exact whole member other
  have fields := fields?_memberDocuments
    (Json.nodup_names (Json.ordered_orderMembers (descriptor.members ++ further)))
    fun member mem known => by
      rcases cases_mem member mem with own | other
      · exact (valued_of_mem_members own).2
      · exact absurd known (others member other)
  have read := read_of_holds (holds_orderMembers descriptor others).fields
  have document : Document.parse? (descriptor.text further).toList =
      some (.object (Json.memberDocuments
        (Json.orderMembers (descriptor.members ++ further)))) := by
    rw [text, Json.compact, String.toList_ofList, Document.parse?_characters allWhole]
    rfl
  rw [parse, document, Option.bind_some, ofDocument?, fields, Option.bind_some, read]

end Metadata.Descriptor

end WarehouseSchema
