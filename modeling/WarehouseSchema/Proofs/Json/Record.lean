import WarehouseSchema.Json.Record

/-!
# Records are read from the members that are written

A member is found in an object wherever it was written, members that are left out where they have
no value are found exactly where they have one, and a reader takes one field after another from the
same members.
-/

set_option autoImplicit false

namespace WarehouseSchema

namespace Json

variable {α : Type}

/-! ## Looking for members -/

@[simp] theorem member?_nil (name : String) : member? ([] : List (String × α)) name = none := rfl

/-- A member is looked for in the first part, and where it is not there in the second. -/
@[simp] theorem member?_append (first second : List (String × α)) (name : String) :
    member? (first ++ second) name = (member? first name).or (member? second name) :=
  List.lookup_append

/-- A name that no member has leads to nothing. -/
theorem member?_eq_none {members : List (String × α)} {name : String}
    (absent : ∀ member ∈ members, member.1 ≠ name) : member? members name = none := by
  induction members with
  | nil => rfl
  | cons head rest ih =>
    obtain ⟨key, value⟩ := head
    have other : name ≠ key := Ne.symm (absent (key, value) List.mem_cons_self)
    rw [member?_cons, if_neg other]
    exact ih fun member mem => absent member (List.mem_cons_of_mem _ mem)

/-- Where no two members share a name, a member is what its name leads to. -/
theorem member?_eq_some_iff {members : List (String × α)} (distinct : (members.map Prod.fst).Nodup)
    {name : String} {value : α} :
    member? members name = some value ↔ (name, value) ∈ members := by
  rw [member?, List.lookup_eq_some_iff]
  constructor
  · rintro ⟨before, after, rfl, -⟩
    exact List.mem_append_right _ List.mem_cons_self
  · intro mem
    obtain ⟨before, after, rfl⟩ := List.append_of_mem mem
    refine ⟨before, after, rfl, fun member earlier => ?_⟩
    rw [List.map_append, List.map_cons] at distinct
    have apart := (List.nodup_append.1 distinct).2.2 member.1 (List.mem_map_of_mem earlier) name
      List.mem_cons_self
    exact bne_iff_ne.2 (Ne.symm apart)

/-- In the ordered members a name leads to the last value that was written under it. The induction
is on the members that are still to be put where they belong. -/
theorem member?_foldl_insertMember (members ordered : List (String × α)) (name : String) :
    member? (members.foldl (fun ordered (key, value) => insertMember key value ordered) ordered)
        name =
      (member? members.reverse name).or (member? ordered name) := by
  induction members generalizing ordered with
  | nil => rfl
  | cons head rest ih =>
    obtain ⟨key, value⟩ := head
    rw [List.foldl_cons, ih, member?_insertMember, List.reverse_cons, member?_append,
      Option.or_assoc, member?_cons]
    congr 1
    split
    · rfl
    · exact (Option.none_or).symm

/-- Of the members of one name the last one counts. -/
theorem member?_orderMembers (members : List (String × α)) (name : String) :
    member? (orderMembers members) name = member? members.reverse name := by
  rw [orderMembers, member?_foldl_insertMember]
  exact Option.or_none

/-- A member that is written where it has a value is found where it has one. -/
@[simp] theorem member?_memberIfSome (key : String) (write : α → Json) (value : Option α)
    (name : String) :
    member? (memberIfSome key write value) name =
      if name = key then value.map write else none := by
  cases value with
  | none => exact (ite_self none).symm
  | some a => exact member?_cons key (write a) [] name

@[simp] theorem reverse_memberIfSome (key : String) (write : α → Json) (value : Option α) :
    (memberIfSome key write value).reverse = memberIfSome key write value := by
  cases value <;> rfl

/-- A member that may be absent is written under its key, if at all. -/
theorem mem_memberIfSome {key : String} {write : α → Json} {value : Option α}
    {member : String × Json} (mem : member ∈ memberIfSome key write value) :
    ∃ a, value = some a ∧ member = (key, write a) := by
  cases value with
  | none => cases mem
  | some a => exact ⟨a, rfl, List.mem_singleton.1 mem⟩

/-- A member that is written where it is a list with items is found where it has some. -/
@[simp] theorem member?_memberIfAny (key : String) (write : α → Json) (items : List α)
    (name : String) :
    member? (memberIfAny key write items) name =
      if name = key then if items = [] then none else some (ofList write items) else none := by
  cases items with
  | nil => exact (ite_self none).symm
  | cons item rest =>
    rw [if_neg (List.cons_ne_nil item rest)]
    exact member?_cons key (ofList write (item :: rest)) [] name

@[simp] theorem reverse_memberIfAny (key : String) (write : α → Json) (items : List α) :
    (memberIfAny key write items).reverse = memberIfAny key write items := by
  cases items <;> rfl

/-- Among the members of some names, each of these leads where it did. -/
theorem member?_filter {names : List String} {name : String} (known : name ∈ names)
    (members : List (String × α)) :
    member? (members.filter fun member => names.contains member.1) name = member? members name := by
  induction members with
  | nil => rfl
  | cons head rest ih =>
    obtain ⟨key, value⟩ := head
    rw [List.filter_cons, member?_cons]
    split
    · rw [member?_cons, ih]
    · rename_i other
      have apart : name ≠ key := by
        rintro rfl
        exact other (List.contains_iff_mem.2 known)
      rw [if_neg apart, ih]

/-! ## Ordered members -/

/-- To put members in order adds none. -/
theorem mem_orderMembers {members : List (String × α)} {member : String × α}
    (mem : member ∈ orderMembers members) : member ∈ members := by
  have step : ∀ (rest ordered : List (String × α)),
      member ∈ rest.foldl (fun ordered (key, value) => insertMember key value ordered) ordered →
        member ∈ rest ∨ member ∈ ordered := by
    intro rest
    induction rest with
    | nil => exact fun _ mem => .inr mem
    | cons head rest ih =>
      intro ordered mem
      rcases ih _ mem with later | inserted
      · exact .inl (List.mem_cons_of_mem _ later)
      · rcases mem_insertMember inserted with rfl | earlier
        · exact .inl List.mem_cons_self
        · exact .inr earlier
  exact (step members [] mem).resolve_right List.not_mem_nil

/-- Members in order have distinct names. -/
theorem nodup_names {members : List (String × α)} (ordered : Ordered members) :
    (members.map Prod.fst).Nodup := by
  rw [List.Nodup, List.pairwise_map]
  refine ordered.imp fun {a b} less same => ?_
  rw [same] at less
  exact String.lt_irrefl _ less

/-! ## Scalars -/

/-- A parameter is read from its number. -/
theorem uint32?_ofInt (n : UInt32) : uint32? (.ofInt n.toNat) = some n := by
  have inRange : (0 : Int) ≤ n.toNat ∧ (n.toNat : Int) < Decimal.twoTo 32 :=
    ⟨Int.natCast_nonneg _, Int.ofNat_lt.2 n.toNat_lt⟩
  rw [ofInt, uint32?, if_pos inRange, Int.toNat_natCast, UInt32.ofNat_toNat]

/-! ## Values that are read back -/

/-- Every value is read from the form in which it is written. -/
def ReadsBack (write : α → Json) (read : Json → Option α) : Prop := ∀ a, read (write a) = some a

theorem readsBack_string : ReadsBack .string string? := fun _ => rfl

theorem readsBack_bool : ReadsBack .bool bool? := fun _ => rfl

namespace ReadsBack

variable {write : α → Json} {read : Json → Option α}

/-- A list is read back where its items are. -/
theorem list (back : ReadsBack write read) : ReadsBack (ofList write) (list? read) := by
  intro items
  show (items.map write).mapM read = some items
  induction items with
  | nil => rfl
  | cons item rest ih =>
    rw [List.map_cons, List.mapM_cons, back item, ih]
    rfl

/-- A value is told from a missing one because it is not written as null. -/
theorem nullable (back : ReadsBack write read) (valued : ∀ a, write a ≠ .null) (a : α) :
    nullable? read (write a) = some (some a) := by
  unfold nullable?
  split
  · rename_i null
    exact absurd null (valued a)
  · rw [back a, Option.map_some]

/-- A value that may be absent is read back, if no value is written as null. -/
theorem option (back : ReadsBack write read) (valued : ∀ a, write a ≠ .null) :
    ReadsBack (ofOption write) (nullable? read) := by
  intro value
  cases value with
  | none => rfl
  | some a => exact back.nullable valued a

end ReadsBack

end Json

namespace RecordReader

variable {α β : Type}

/-- A field that was taken is what the rest of the reader goes on with. -/
theorem bind_of_taken {first : RecordReader α} {next : α → RecordReader β}
    {source rest : RecordSource} {a : α} (taken : first source = some (a, rest)) :
    (first >>= next) source = next a rest := by
  show (first source).bind (fun taken => next taken.1 taken.2) = _
  rw [taken]
  rfl

/-- A field is taken from the members of an object, which stay. -/
theorem required_members {name : String} {read : Json → Option α} {members : List (String × Json)}
    {value : Json} {a : α} (found : Json.member? members name = some value)
    (reads : read value = some a) :
    required name read (.members members) = some (a, .members members) := by
  rw [required, next, found, Option.bind_some]
  dsimp only
  rw [Option.bind_some, reads, Option.map_some]

/-- A field that is left out where it has no value is taken with the value that it has. -/
theorem optional_members {name : String} {write : α → Json} {read : Json → Option (Option α)}
    {members : List (String × Json)} {value : Option α}
    (found : Json.member? members name = value.map write)
    (reads : ∀ a, read (write a) = some (some a)) :
    withDefault name none read (.members members) = some (value, .members members) := by
  rw [withDefault, next, found, Option.bind_some]
  cases value with
  | none => rfl
  | some a =>
    dsimp only [Option.map_some]
    rw [reads, Option.map_some]

/-- The default of a field that is always written does not count. -/
theorem present_members {name : String} {default : α} {read : Json → Option α}
    {members : List (String × Json)} {value : Json} {a : α}
    (found : Json.member? members name = some value) (reads : read value = some a) :
    withDefault name default read (.members members) = some (a, .members members) := by
  rw [withDefault, next, found, Option.bind_some]
  dsimp only
  rw [reads, Option.map_some]

/-- A list that is left out where it is empty is taken with the items that it has. -/
theorem listed_members {name : String} {write : α → Json} {read : Json → Option α}
    {members : List (String × Json)} {items : List α}
    (found : Json.member? members name = if items = [] then none else some (.ofList write items))
    (back : Json.ReadsBack write read) :
    withDefault name [] (Json.list? read) (.members members) = some (items, .members members) := by
  cases items with
  | nil =>
    rw [withDefault, next, found]
    rfl
  | cons item rest =>
    rw [if_neg (List.cons_ne_nil item rest)] at found
    exact present_members found (back.list _)

/-- A field that an object may leave out is taken from one that does not. -/
theorem omittable_members {name : String} {read : Json → Option α}
    {members : List (String × Json)} {value : Json} {a : α}
    (found : Json.member? members name = some value) (reads : read value = some a) :
    omittable name read (.members members) = some (some a, .members members) := by
  simp only [omittable, next, found, reads, Option.map_some]

/-- What a reader takes from the members of an object is what it reads from the object. -/
theorem read_of_taken {reader : RecordReader α} {members : List (String × Json)} {a : α}
    (taken : reader (.members members) = some (a, .members members)) :
    reader.read (.object members) = some a := by
  rw [read, taken, Option.map_some]

end RecordReader

end WarehouseSchema
