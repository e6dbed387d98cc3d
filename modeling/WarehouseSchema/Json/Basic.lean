import WarehouseSchema.Decimal.Binary64

/-!
# JSON values

A number is a whole number or a binary64 number, and the two are told apart. The members of an
object are kept in the order of their names by code point, each name once.
-/

set_option autoImplicit false

namespace WarehouseSchema

/-- A number of a JSON value. -/
inductive JsonNumber where
  | integer (value : Int)
  | float (value : Decimal.Binary64)
  deriving DecidableEq, Repr

/-- A JSON value. -/
inductive Json where
  | null
  | bool (value : Bool)
  | number (value : JsonNumber)
  | string (value : String)
  | array (items : List Json)
  | object (members : List (String × Json))
  deriving Repr

instance : Inhabited Json := ⟨.null⟩

/-- Whether a number is zero, of either kind and sign. -/
def JsonNumber.isZero : JsonNumber → Bool
  | .integer n => n == 0
  | .float x => x.isZero

namespace Json

/-- Named values in the order of their names, each name once. -/
def Ordered {α : Type} (members : List (String × α)) : Prop :=
  members.Pairwise fun a b => a.1 < b.1

/-- Puts a member where its name belongs, in the place of an earlier one of that name. -/
def insertMember {α : Type} (name : String) (value : α) :
    List (String × α) → List (String × α)
  | [] => [(name, value)]
  | (key, old) :: rest =>
    if name < key then (name, value) :: (key, old) :: rest
    else if name = key then (name, value) :: rest
    else (key, old) :: insertMember name value rest

/-- The members in order, the last of a repeated name. -/
def orderMembers {α : Type} (members : List (String × α)) : List (String × α) :=
  members.foldl (fun ordered (name, value) => insertMember name value ordered) []

/-- The value of a member. -/
def member? {α : Type} (members : List (String × α)) (name : String) : Option α :=
  members.lookup name

@[simp] theorem member?_cons {α : Type} (key : String) (value : α) (members : List (String × α))
    (wanted : String) :
    member? ((key, value) :: members) wanted =
      if wanted = key then some value else member? members wanted := by
  by_cases h : wanted = key
  · simp [member?, h]
  · simp [member?, List.lookup_cons, beq_eq_false_iff_ne.2 h, h]

/-- An inserted member is found under its name, and every other name leads where it did. -/
theorem member?_insertMember {α : Type} (name : String) (value : α) (members : List (String × α))
    (wanted : String) :
    member? (insertMember name value members) wanted =
      if wanted = name then some value else member? members wanted := by
  induction members with
  | nil => rw [insertMember, member?_cons]
  | cons head rest ih =>
    obtain ⟨key, old⟩ := head
    simp only [insertMember]
    split
    · rw [member?_cons]
    · split
      · rename_i same
        rw [member?_cons, member?_cons, ← same]
        by_cases h : wanted = name <;> simp [h]
      · rename_i other
        rw [member?_cons, member?_cons, ih]
        by_cases h : wanted = name
        · rw [if_pos h, if_pos h, if_neg (h ▸ other)]
        · rw [if_neg h, if_neg h]

/-- The names of an inserted list are the old ones and the new one. -/
theorem mem_insertMember {α : Type} {name : String} {value : α} {members : List (String × α)}
    {m : String × α} (h : m ∈ insertMember name value members) :
    m = (name, value) ∨ m ∈ members := by
  induction members with
  | nil => simpa [insertMember] using h
  | cons head rest ih =>
    obtain ⟨key, old⟩ := head
    simp only [insertMember] at h
    split at h
    · simpa using h
    · split at h
      · rcases List.mem_cons.1 h with h | h
        · exact .inl h
        · exact .inr (List.mem_cons_of_mem _ h)
      · rcases List.mem_cons.1 h with h | h
        · exact .inr (by simp [h])
        · exact (ih h).imp id (List.mem_cons_of_mem _)

/-- Inserting keeps the order. -/
theorem ordered_insertMember {α : Type} {name : String} {value : α} {members : List (String × α)}
    (h : Ordered members) : Ordered (insertMember name value members) := by
  induction members with
  | nil => simp [Ordered, insertMember]
  | cons head rest ih =>
    obtain ⟨key, old⟩ := head
    have htail := List.pairwise_cons.1 h
    simp only [insertMember]
    split
    · rename_i hlt
      refine List.pairwise_cons.2 ⟨fun m hm => ?_, h⟩
      rcases List.mem_cons.1 hm with rfl | hm
      · exact hlt
      · exact String.lt_trans hlt (htail.1 m hm)
    · rename_i hlt
      split
      · rename_i heq
        subst heq
        exact List.pairwise_cons.2 ⟨htail.1, htail.2⟩
      · rename_i hne
        refine List.pairwise_cons.2 ⟨fun m hm => ?_, ih htail.2⟩
        rcases mem_insertMember hm with rfl | hm
        · exact String.not_le.1 fun hle => hne (String.le_antisymm hle (String.not_lt.1 hlt))
        · exact htail.1 m hm

theorem ordered_orderMembers {α : Type} (members : List (String × α)) :
    Ordered (orderMembers members) := by
  have step : ∀ (rest ordered : List (String × α)), Ordered ordered →
      Ordered (rest.foldl (fun o (name, value) => insertMember name value o) ordered) := by
    intro rest
    induction rest with
    | nil => exact fun _ h => h
    | cons m rest ih => exact fun _ h => ih _ (ordered_insertMember h)
  exact step members [] List.Pairwise.nil

end Json

end WarehouseSchema
