import Mathlib.Data.List.Forall2
import Mathlib.Data.List.Induction
import Mathlib.Data.List.Nodup

/-!
# Traversals

A list is read by reading its items from the left, and the first item that cannot be read is the
failure of the whole. Where items are kept under keys, a key that is new comes last, so the keys
stand in the order in which they first appear. The laws here say what comes of a traversal, item by
item; they know nothing of what is read or kept.
-/

set_option autoImplicit false

namespace WarehouseSchema.Traversal

variable {α β ε : Type}

/-! ## Traversals that may fail -/

/-- A traversal succeeds where each of its items does, and its values are theirs. -/
theorem mapM_eq_ok {f : α → Except ε β} {items : List α} {values : List β} :
    items.mapM f = .ok values ↔
      List.Forall₂ (fun item value => f item = .ok value) items values := by
  induction items generalizing values with
  | nil =>
    rw [List.forall₂_nil_left_iff]
    exact ⟨fun same => (Except.ok.inj same).symm, fun same => congrArg Except.ok same.symm⟩
  | cons item rest ih =>
    rw [List.mapM_cons, List.forall₂_cons_left_iff]
    cases head : f item with
    | error e =>
      constructor
      · intro failed
        cases failed
      · rintro ⟨value, others, read, -, -⟩
        cases read
    | ok value =>
      cases tail : rest.mapM f with
      | error e =>
        constructor
        · intro failed
          cases failed
        · rintro ⟨_, others, -, read, -⟩
          cases tail.symm.trans (ih.2 read)
      | ok others =>
        constructor
        · intro read
          cases read
          exact ⟨value, others, rfl, ih.1 tail, rfl⟩
        · rintro ⟨_, _, ⟨⟩, read, rfl⟩
          cases tail.symm.trans (ih.2 read)
          rfl

/-- A list is computed whole exactly where each of its items is. -/
theorem exists_mapM_eq_ok {f : α → Except ε β} {items : List α} :
    (∃ values, items.mapM f = .ok values) ↔ ∀ item ∈ items, ∃ value, f item = .ok value := by
  simp only [mapM_eq_ok]
  induction items with
  | nil => exact iff_of_true ⟨[], .nil⟩ fun _ mem => absurd mem List.not_mem_nil
  | cons first rest ih =>
    rw [List.forall_mem_cons, ← ih]
    constructor
    · rintro ⟨_, _ | ⟨head, tail⟩⟩
      exact ⟨⟨_, head⟩, _, tail⟩
    · rintro ⟨⟨value, head⟩, values, tail⟩
      exact ⟨value :: values, .cons head tail⟩

/-- Where the first item can be read, a traversal fails as that of the others does. -/
theorem mapM_cons_eq_error {f : α → Except ε β} {first : α} {value : β} {rest : List α} {e : ε}
    (head : f first = .ok value) : (first :: rest).mapM f = .error e ↔ rest.mapM f = .error e := by
  rw [List.mapM_cons, head]
  cases rest.mapM f with
  | error cause => exact Iff.rfl
  | ok values => exact ⟨fun failed => (nomatch failed), fun failed => (nomatch failed)⟩

/-- A traversal that does something with each value does it with all values. -/
theorem mapM_map {γ : Type} (f : α → Except ε β) (g : β → γ) (items : List α) :
    items.mapM (fun item => (f item).map g) = (items.mapM f).map (List.map g) := by
  induction items with
  | nil => rfl
  | cons item rest ih =>
    rw [List.mapM_cons, List.mapM_cons, ih]
    cases f item with
    | error e => rfl
    | ok value => cases rest.mapM f <;> rfl

/-- What is done with a value does not make it fail. -/
theorem map_eq_error_iff {f : α → β} {result : Except ε α} {e : ε} :
    result.map f = .error e ↔ result = .error e := by
  cases result with
  | error cause =>
    constructor
    · intro failed
      cases failed
      rfl
    · intro failed
      cases failed
      rfl
  | ok value => exact ⟨fun failed => (nomatch failed), fun failed => (nomatch failed)⟩

/-- What is done with a value does not keep it from coming. -/
theorem exists_map_eq_ok {f : α → β} {result : Except ε α} :
    (∃ mapped, result.map f = .ok mapped) ↔ ∃ value, result = .ok value := by
  cases result with
  | error cause =>
    constructor
    · intro mapped
      obtain ⟨_, mapped⟩ := mapped
      cases mapped
    · intro came
      obtain ⟨_, came⟩ := came
      cases came
  | ok value => exact iff_of_true ⟨f value, rfl⟩ ⟨value, rfl⟩

/-- A traversal fails as the first of its items that does. -/
theorem mapM_eq_error {f : α → Except ε β} {items : List α} {e : ε} :
    items.mapM f = .error e ↔ ∃ before item after, items = before ++ item :: after ∧
      (∀ other ∈ before, ∃ value, f other = .ok value) ∧ f item = .error e := by
  induction items with
  | nil =>
    constructor
    · intro failed
      cases failed
    · rintro ⟨before, item, after, split, -⟩
      cases before <;> cases split
  | cons first rest ih =>
    cases head : f first with
    | error cause =>
      rw [List.mapM_cons, head]
      constructor
      · intro failed
        cases failed
        exact ⟨[], first, rest, rfl, fun _ mem => absurd mem List.not_mem_nil, head⟩
      -- The first item fails, so it is the one that is named: none before that one does.
      · rintro ⟨before, item, after, split, earlier, fails⟩
        cases before with
        | nil =>
          cases split
          cases head.symm.trans fails
          rfl
        | cons other more =>
          cases split
          obtain ⟨value, read⟩ := earlier first List.mem_cons_self
          cases head.symm.trans read
    | ok value =>
      rw [mapM_cons_eq_error head, ih]
      constructor
      · rintro ⟨before, item, after, rfl, earlier, fails⟩
        exact ⟨first :: before, item, after, rfl,
          List.forall_mem_cons.2 ⟨⟨value, head⟩, earlier⟩, fails⟩
      · rintro ⟨before, item, after, split, earlier, fails⟩
        cases before with
        | nil =>
          cases split
          cases head.symm.trans fails
        | cons other more =>
          cases split
          exact ⟨more, item, after, rfl, (List.forall_mem_cons.1 earlier).2, fails⟩

/-- A traversal fails only because one of its items does, with the same error. -/
theorem error_of_mapM {f : α → Except ε β} {items : List α} {e : ε}
    (failed : items.mapM f = .error e) : ∃ item ∈ items, f item = .error e := by
  obtain ⟨before, item, after, rfl, -, fails⟩ := mapM_eq_error.1 failed
  exact ⟨item, List.mem_append_right _ List.mem_cons_self, fails⟩

/-- What corresponds to the items of a list is one of theirs. -/
theorem exists_of_mem_right {r : α → β → Prop} {items : List α} {values : List β}
    (related : List.Forall₂ r items values) {value : β} (mem : value ∈ values) :
    ∃ item ∈ items, r item value := by
  induction related with
  | nil => cases mem
  | cons head _ ih =>
    rcases List.mem_cons.1 mem with rfl | later
    · exact ⟨_, List.mem_cons_self, head⟩
    · obtain ⟨item, among, related⟩ := ih later
      exact ⟨item, List.mem_cons_of_mem _ among, related⟩

/-- Lists that correspond to the same list correspond to each other. -/
theorem forall₂_of_common {γ : Type} {r : α → γ → Prop} {s : β → γ → Prop} {t : α → β → Prop}
    {items : List α} {others : List β} {common : List γ} (first : List.Forall₂ r items common)
    (second : List.Forall₂ s others common) (through : ∀ a b c, r a c → s b c → t a b) :
    List.Forall₂ t items others := by
  induction first generalizing others with
  | nil =>
    cases second
    exact .nil
  | cons head _ ih =>
    cases second with
    | cons head' rest => exact .cons (through _ _ _ head head') (ih rest)

/-! ## Traversals that keep items under keys -/

section Keys

variable {κ : Type} [BEq κ] [LawfulBEq κ]

/-- A key is kept where it first appears. -/
theorem eraseDups_concat (keys : List κ) (key : κ) :
    (keys ++ [key]).eraseDups =
      if key ∈ keys then keys.eraseDups else keys.eraseDups ++ [key] := by
  rw [List.eraseDups_append]
  split
  · rename_i known
    simp [List.removeAll, known]
  · rename_i fresh
    simp [List.removeAll, fresh, List.eraseDups_cons]

/-- Keys in the order of their first appearance are distinct. -/
theorem nodup_eraseDups (keys : List κ) : keys.eraseDups.Nodup := by
  induction keys using List.reverseRecOn with
  | nil => exact List.nodup_nil
  | append_singleton keys key ih =>
    rw [eraseDups_concat]
    split
    · exact ih
    · rename_i fresh
      rw [← List.mem_eraseDups] at fresh
      exact List.nodup_append_comm.1 (List.nodup_cons.2 ⟨fresh, ih⟩)

/-- Where a new key comes last and a known one keeps its place, the keys are those of the items in
order of first appearance. The induction takes the last item away. -/
theorem keys_foldl {store : Type} (keys : store → List κ) (key : α → κ) {put : store → α → store}
    (puts : ∀ kept item, keys (put kept item) =
      if key item ∈ keys kept then keys kept else keys kept ++ [key item])
    {start : store} (empty : keys start = []) (items : List α) :
    keys (items.foldl put start) = (items.map key).eraseDups := by
  induction items using List.reverseRecOn with
  | nil => exact empty
  | append_singleton items item ih =>
    rw [List.foldl_concat, puts, ih, List.map_append, List.map_singleton, eraseDups_concat]
    simp only [List.mem_eraseDups]

end Keys

end WarehouseSchema.Traversal
