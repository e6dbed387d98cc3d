import WarehouseSchema.Column.Basic
import WarehouseSchema.Proofs.Text.Blank
import WarehouseSchema.Proofs.Traversal

/-!
# Spellings that mean their type

Every type is declared by a keyword of its own, and the keyword means the type again. A name that
means no type is reported as it is.

The names that are documented are the synonyms, in another order, so a name can be checked in place
of being resolved. The warehouse reports a type by a synonym as well, which means the same to it,
or by one name that is no synonym.
-/

set_option autoImplicit false

namespace WarehouseSchema

namespace DataType

/-- A type that a name is found to mean, told without the refusal, is the one that it means. -/
theorem eq_ok_of_toOption {found : Except UnknownType DataType} {type : DataType}
    (meant : found.toOption = some type) : found = .ok type := by
  cases found with
  | error unknown => cases meant
  | ok other => exact congrArg Except.ok (Option.some.inj meant)

/-- The keyword of a type means the type. -/
theorem resolve_keyword (type : DataType) : resolve type.keyword = .ok type := by
  have every : ∀ type ∈ all, (resolve type.keyword).toOption = some type := by decide +kernel
  exact eq_ok_of_toOption (every type (mem_all type))

/-- The keyword of a type means the type where no time zone is asked for. -/
theorem resolveZoned_keyword (type : DataType) : resolveZoned type.keyword false = .ok type := by
  rw [resolveZoned, resolve_keyword]
  simp only [Except.map, Bool.false_eq_true, and_false, ↓reduceIte]

/-- A name that means no type is the one that is refused. -/
theorem resolveZoned_of_toOption {name : String} (unknown : (resolve name).toOption = none)
    (zoned : Bool) : resolveZoned name zoned = .error ⟨name⟩ := by
  unfold resolveZoned resolve at *
  cases found : synonyms.find? fun entry => Text.sameLetters entry.1 (Text.trim name) with
  | none => rfl
  | some entry =>
    rw [found] at unknown
    cases unknown

/-- The name that is refused is the one that was given, and it means no type. -/
theorem resolveZoned_eq_error_iff {name : String} {zoned : Bool} {unknown : UnknownType} :
    resolveZoned name zoned = .error unknown ↔
      (¬ ∃ type, resolveZoned name zoned = .ok type) ∧ unknown = ⟨name⟩ := by
  unfold resolveZoned resolve
  cases synonyms.find? fun entry => Text.sameLetters entry.1 (Text.trim name) with
  | none => simp [Except.map, eq_comm]
  | some entry => simp [Except.map]

/-- A reported name that means no type is refused without the blanks around it. -/
theorem ofReported_eq_error_iff {name : String} {unknown : UnknownType} :
    ofReported name = .error unknown ↔
      (¬ ∃ type, ofReported name = .ok type) ∧ unknown = ⟨Text.trim name⟩ := by
  unfold ofReported resolve
  dsimp only
  split
  · simp
  split
  · simp
  split
  · simp
  cases synonyms.find? fun entry => Text.sameLetters entry.1 (Text.trim (Text.trim name)) with
  | none => simp [eq_comm]
  | some entry => simp

/-! ## Names that can be checked -/

theorem documentedNames_perm : documentedNames.Perm (synonyms.map (·.1)) := by decide +kernel

/-- What a name means is the type of the first synonym that it is up to case and blanks. -/
theorem toOption_resolve (name : String) :
    (resolve name).toOption =
      (synonyms.find? fun entry => Text.sameLetters entry.1 (Text.trim name)).map (·.2) := by
  unfold resolve
  cases synonyms.find? fun entry => Text.sameLetters entry.1 (Text.trim name) <;> rfl

theorem exists_eq_ok_iff {found : Except UnknownType DataType} :
    (∃ type, found = .ok type) ↔ found.toOption.isSome = true := by
  cases found with
  | error unknown => simp [Except.toOption]
  | ok type => simp [Except.toOption]

/-- A name is documented exactly where it means a type. -/
theorem isDocumentedName_iff {name : String} :
    isDocumentedName name = true ↔ ∃ type, resolve name = .ok type := by
  rw [exists_eq_ok_iff, toOption_resolve, Option.isSome_map, List.find?_isSome, isDocumentedName,
    List.any_eq_true]
  simp only [documentedNames_perm.mem_iff, List.mem_map, exists_exists_and_eq_and]

theorem exists_resolveZoned_iff {name : String} {zoned : Bool} :
    (∃ type, resolveZoned name zoned = .ok type) ↔ ∃ type, resolve name = .ok type :=
  Traversal.exists_map_eq_ok

/-! ## Names that are reported -/

/-- Names that are alike up to case and blanks mean the same. -/
theorem toOption_resolve_congr {first second : String}
    (same : Text.sameLetters (Text.trim first) (Text.trim second) = true) :
    (resolve first).toOption = (resolve second).toOption := by
  simp only [toOption_resolve, Text.sameLetters, beq_iff_eq] at same ⊢
  rw [same]

/-- A reported name means what it means as a synonym, and one name that is no synonym means a
number. -/
theorem toOption_ofReported (name : String) :
    (ofReported name).toOption =
      if Text.sameLetters (Text.trim name) "fixed" then some .number
      else (resolve name).toOption := by
  have storage (word : String) (same : Text.sameLetters (Text.trim name) word = true)
      (bare : Text.trim word = word) : (resolve name).toOption = (resolve word).toOption := by
    apply toOption_resolve_congr
    rw [bare, same]
  unfold ofReported
  dsimp only
  split
  · rfl
  split
  · rename_i text
    rw [storage "text" text (by decide +kernel)]
    decide +kernel
  split
  · rename_i real
    rw [storage "real" real (by decide +kernel)]
    decide +kernel
  · apply toOption_resolve_congr
    rw [Text.trim_trim, Text.sameLetters_refl]

/-- The name by which only the warehouse calls a number is no synonym. -/
theorem toOption_resolve_fixed {name : String}
    (fixed : Text.sameLetters (Text.trim name) "fixed" = true) :
    (resolve name).toOption = none := by
  have bare : Text.trim "fixed" = "fixed" := by decide +kernel
  have same : (resolve name).toOption = (resolve "fixed").toOption := by
    apply toOption_resolve_congr
    rw [bare, fixed]
  rw [same]
  decide +kernel

end DataType

/-- A column of unknown type is reported by the name of the type that it declares. -/
theorem Column.dataType_eq_error_iff {column : Column} {failure : SchemaError} :
    column.dataType = .error failure ↔
      (¬ ∃ type, column.type = .ok type) ∧ failure = .unknownType ⟨column.typeName⟩ := by
  rw [dataType]
  cases declared : column.type with
  | ok type =>
    refine iff_of_false (fun refused => ?_) fun unknown => unknown.1 ⟨type, rfl⟩
    cases refused
  | error unknown =>
    obtain ⟨-, rfl⟩ := DataType.resolveZoned_eq_error_iff.1 declared
    show Except.error (SchemaError.unknownType ⟨column.typeName⟩) = Except.error failure ↔ _
    rw [Except.error.injEq, eq_comm]
    simp only [reduceCtorEq, exists_false, not_false_eq_true, true_and]

end WarehouseSchema
