import WarehouseSchema.Column.Definition
import WarehouseSchema.Proofs.Metadata.Report

/-!
# What a description tells of a seed and an increment

`Spells` takes a text apart into words and integers, with nothing left to choose. The seed is meant
to be the first of the integers and the increment the second; an integer that does not fit 64 bits
is passed over, and then those behind it move up.

## What is proved

`seed_and_increment_in_place_iff`: seed and increment stand in their places exactly where no integer
that fits is behind one of the first two that does not.
`identity_is_read_as_written`: a seed and an increment that are written among words are read again,
those of a column's definition and of a report among them.
-/

set_option autoImplicit false

namespace WarehouseSchema.Metadata

/-! ## The integers of a text -/

/-- The text has these integers between its words, from left to right: an integer goes on as far as
there are digits, and the minus sign before its first digit belongs to it. -/
inductive Spells : List Char → List (List Char) → Prop where
  | words {words : List Char} (wordy : Wordy words) : Spells words []
  | integer {words sign digits rest : List Char} {integers : List (List Char)}
      (wordy : Wordy words)
      (signed : sign = ['-'] ∨ sign = [] ∧ words.getLast? ≠ some '-')
      (nonempty : digits ≠ [])
      (all : ∀ d ∈ digits, Text.isDecimalDigit d = true)
      (ends : rest.takeWhile Text.isDecimalDigit = [])
      (others : Spells rest integers) :
      Spells (words ++ (sign ++ digits ++ rest)) ((sign ++ digits) :: integers)

namespace Spells

variable {text : List Char} {integers : List (List Char)}

/-- The integers that a text spells are those that the scan finds. -/
theorem spelledIntegers_eq (spells : Spells text integers) : spelledIntegers text = integers := by
  induction spells with
  | words wordy => exact spelledIntegers_of_wordy wordy
  | @integer words sign digits rest integers wordy signed nonempty all ends _ ih =>
    obtain ⟨first, more, rfl⟩ := List.exists_cons_of_ne_nil nonempty
    obtain rfl | ⟨rfl, noSign⟩ := signed
    · rw [spelledIntegers_append_of_wordy wordy fun _ => rfl]
      refine (spelledIntegers_cons ?_ all ends).trans (congrArg _ ih)
      rfl
    · rw [spelledIntegers_append_of_wordy wordy fun last => absurd last noSign]
      have digit := all first List.mem_cons_self
      refine (spelledIntegers_cons ?_ (fun d mem => all d (List.mem_cons_of_mem _ mem)) ends).trans
        (congrArg _ ih)
      rw [digit, Bool.true_or]

/-- A character that begins no integer joins the words before the first one. -/
theorem cons {c : Char} (noDigit : Text.isDecimalDigit c = false)
    (noSign : c = '-' → text.takeWhile Text.isDecimalDigit = []) (spells : Spells text integers) :
    Spells (c :: text) integers := by
  cases spells with
  | words wordy => exact .words (List.forall_mem_cons.2 ⟨noDigit, wordy⟩)
  | @integer words sign digits rest integers wordy signed nonempty all ends others =>
    have wordyToo : Wordy (c :: words) := List.forall_mem_cons.2 ⟨noDigit, wordy⟩
    have signedToo : sign = ['-'] ∨ sign = [] ∧ (c :: words).getLast? ≠ some '-' := by
      refine signed.imp_right fun ⟨unsigned, apart⟩ => ⟨unsigned, ?_⟩
      cases words with
      | nil =>
        -- A minus sign would stand directly before the first digit.
        rintro ⟨⟩
        obtain ⟨first, more, rfl⟩ := List.exists_cons_of_ne_nil nonempty
        subst unsigned
        have absent := noSign rfl
        rw [List.nil_append, List.nil_append, List.cons_append,
          List.takeWhile_cons_of_pos (all first List.mem_cons_self)] at absent
        cases absent
      | cons d words => rwa [List.getLast?_cons_cons]
    exact .integer wordyToo signedToo nonempty all ends others

/-- A text that begins with an integer: its first character, and the digits behind that. -/
theorem head {c : Char} (begins : (Text.isDecimalDigit c ||
      (c == '-' && !(text.takeWhile Text.isDecimalDigit).isEmpty)) = true)
    (spells : Spells (text.dropWhile Text.isDecimalDigit) integers) :
    Spells (c :: text) ((c :: text.takeWhile Text.isDecimalDigit) :: integers) := by
  have noWords : Wordy [] := fun _ mem => absurd mem List.not_mem_nil
  have all : ∀ d ∈ text.takeWhile Text.isDecimalDigit, Text.isDecimalDigit d = true :=
    List.all_eq_true.1 List.all_takeWhile
  have ends := takeWhile_dropWhile text
  have parts : c :: text =
      [c] ++ text.takeWhile Text.isDecimalDigit ++ text.dropWhile Text.isDecimalDigit := by
    rw [List.append_assoc, List.takeWhile_append_dropWhile, List.singleton_append]
  rw [parts]
  cases digit : Text.isDecimalDigit c with
  | true =>
    exact .integer noWords (.inr ⟨rfl, nofun⟩) (List.cons_ne_nil c _)
      (List.forall_mem_cons.2 ⟨digit, all⟩) ends spells
  | false =>
    rw [digit, Bool.false_or, Bool.and_eq_true, beq_iff_eq, Bool.not_eq_true',
      List.isEmpty_eq_false_iff] at begins
    obtain ⟨rfl, nonempty⟩ := begins
    exact .integer noWords (.inl rfl) nonempty all ends spells

/-- Every text is taken apart as it is scanned. The induction is on the scan. -/
theorem of_spelledIntegers (text : List Char) : Spells text (spelledIntegers text) := by
  induction text using spelledIntegers.induct with
  | case1 =>
    rw [spelledIntegers]
    exact .words fun _ mem => absurd mem List.not_mem_nil
  | case2 c rest digits begins ih =>
    rw [spelledIntegers, if_pos begins]
    exact head begins ih
  | case3 c rest digits passed ih =>
    rw [spelledIntegers, if_neg passed]
    obtain ⟨noDigit, noSign⟩ := not_or.1 (mt (Bool.or_eq_true _ _).mpr passed)
    refine cons (Bool.eq_false_iff.2 noDigit) (fun sign => ?_) ih
    subst sign
    rwa [beq_self_eq_true, Bool.true_and, Bool.not_eq_true', Bool.not_eq_false,
      List.isEmpty_iff] at noSign

end Spells

/-- A text spells exactly one list of integers. -/
theorem spells_iff {text : List Char} {integers : List (List Char)} :
    Spells text integers ↔ integers = spelledIntegers text := by
  constructor
  · intro spells
    exact spells.spelledIntegers_eq.symm
  · rintro rfl
    exact .of_spelledIntegers text

/-! ## The integers that fit -/

/-- An integer that fits 64 bits; digits of other scripts have no value. -/
def Fits (integer : List Char) : Prop := ∃ n, Text.Denotes integer n

/-- Seed and increment are the first and the second integer, each if it fits. -/
structure InPlace (integers : List (List Char)) (identity : Identity) : Prop where
  seed : ∀ n, identity.seed = some n ↔
    ∃ integer, integers[0]? = some integer ∧ Text.Denotes integer n
  increment : ∀ n, identity.increment = some n ↔
    ∃ integer, integers[1]? = some integer ∧ Text.Denotes integer n

/-- No integer that fits is behind one of the first two that does not. -/
def NoneMovesUp (integers : List (List Char)) : Prop :=
  ∀ before integer after, integers = before ++ integer :: after → before.length < 2 →
    ¬Fits integer → ∀ later ∈ after, ¬Fits later

namespace Spells

variable {text : List Char} {integers : List (List Char)}

/-- An integer begins with a minus sign or a digit, never with a plus sign. -/
theorem head?_ne_plus (spells : Spells text integers) :
    ∀ integer ∈ integers, integer.head? ≠ some '+' := by
  induction spells with
  | words wordy => exact fun _ mem => absurd mem List.not_mem_nil
  | @integer words sign digits rest integers wordy signed nonempty all ends _ ih =>
    refine List.forall_mem_cons.2 ⟨?_, ih⟩
    obtain rfl | ⟨rfl, -⟩ := signed
    · rintro ⟨⟩
    · obtain ⟨first, more, rfl⟩ := List.exists_cons_of_ne_nil nonempty
      rintro ⟨⟩
      exact absurd (all '+' List.mem_cons_self) (by decide)

/-- An integer of a text is read as the number that it denotes. -/
theorem readInt64?_eq_some_iff (spells : Spells text integers) {integer : List Char}
    (mem : integer ∈ integers) {n : Int64} :
    Text.readInt64? integer = some n ↔ Text.Denotes integer n :=
  Text.readInt64?_eq_some_iff (spells.head?_ne_plus integer mem)

/-- An integer of a text is not read where it is out of range. -/
theorem readInt64?_eq_none_iff (spells : Spells text integers) {integer : List Char}
    (mem : integer ∈ integers) : Text.readInt64? integer = none ↔ ¬Fits integer := by
  rw [Option.eq_none_iff_forall_ne_some, Fits, not_exists]
  exact forall_congr' fun n => not_congr (spells.readInt64?_eq_some_iff mem)

/-- What is read at a place is what the integer there denotes. -/
theorem bind_getElem?_eq_some_iff (spells : Spells text integers) {place : Nat} {n : Int64} :
    integers[place]?.bind Text.readInt64? = some n ↔
      ∃ integer, integers[place]? = some integer ∧ Text.Denotes integer n := by
  rw [Option.bind_eq_some_iff]
  refine exists_congr fun integer => and_congr_right fun found => ?_
  exact spells.readInt64?_eq_some_iff (List.mem_of_getElem? found)

/-- An identity is in place where its two numbers are those of the first two integers. -/
theorem inPlace_iff (spells : Spells text integers) (identity : Identity) :
    InPlace integers identity ↔ identity.seed = integers[0]?.bind Text.readInt64? ∧
      identity.increment = integers[1]?.bind Text.readInt64? := by
  constructor
  · rintro ⟨seed, increment⟩
    exact ⟨Option.ext fun n => (seed n).trans spells.bind_getElem?_eq_some_iff.symm,
      Option.ext fun n => (increment n).trans spells.bind_getElem?_eq_some_iff.symm⟩
  · rintro ⟨seed, increment⟩
    refine ⟨fun n => ?_, fun n => ?_⟩
    · rw [seed, spells.bind_getElem?_eq_some_iff]
    · rw [increment, spells.bind_getElem?_eq_some_iff]

/-- No integer moves up where each of the first two is read or nothing after it is. -/
theorem noneMovesUp_iff (spells : Spells text integers) :
    NoneMovesUp integers ↔ ∀ before integer after, integers = before ++ integer :: after →
      before.length < 2 → Text.readInt64? integer = none →
        ∀ later ∈ after, Text.readInt64? later = none := by
  refine forall_congr' fun before => forall_congr' fun integer => forall_congr' fun after =>
    forall_congr' fun parts => forall_congr' fun _ => ?_
  have mem : integer ∈ integers := parts ▸ List.mem_append_right _ List.mem_cons_self
  have memLater {later : List Char} (among : later ∈ after) : later ∈ integers :=
    parts ▸ List.mem_append_right _ (List.mem_cons_of_mem _ among)
  rw [spells.readInt64?_eq_none_iff mem]
  exact forall_congr' fun _ => forall_congr' fun later => forall_congr' fun among =>
    (spells.readInt64?_eq_none_iff (memLater among)).symm

end Spells

section Reading

variable {α β : Type} {read : α → Option β}

/-- The first item that is read is the first item, unless it is not read and a later one is. -/
theorem filterMap_cons_first_iff {item : α} {rest : List α} :
    ((item :: rest).filterMap read)[0]? = read item ↔
      (read item = none → ∀ later ∈ rest, read later = none) := by
  cases found : read item with
  | none =>
    rw [List.filterMap_cons_none found, ← List.head?_eq_getElem?, List.head?_eq_none_iff,
      List.filterMap_eq_nil_iff, forall_prop_of_true rfl]
  | some value =>
    rw [List.filterMap_cons_some found]
    exact ⟨fun _ => nofun, fun _ => rfl⟩

/-- The first two items that can be read are the first two items of all, where no item that can be
read is behind one of these that cannot. -/
theorem filterMap_in_place_iff {items : List α} :
    ((items.filterMap read)[0]? = items[0]?.bind read ∧
        (items.filterMap read)[1]? = items[1]?.bind read) ↔
      ∀ before item after, items = before ++ item :: after → before.length < 2 →
        read item = none → ∀ later ∈ after, read later = none := by
  constructor
  · rintro ⟨first, second⟩ before item after rfl near unread
    match before, near with
    | [], _ => exact filterMap_cons_first_iff.1 first unread
    -- Behind an item that is read the second place is the first of the rest.
    | [earlier], _ =>
      cases found : read earlier with
      | none =>
        have others := filterMap_cons_first_iff.1 first found
        exact fun later mem => others later (List.mem_cons_of_mem _ mem)
      | some value =>
        rw [List.singleton_append, List.filterMap_cons_some found] at second
        exact filterMap_cons_first_iff.1 second unread
  · intro settled
    cases items with
    | nil => exact ⟨rfl, rfl⟩
    | cons first rest =>
      have others := settled [] first rest rfl Nat.zero_lt_two
      refine ⟨filterMap_cons_first_iff.2 others, ?_⟩
      cases found : read first with
      | none =>
        rw [List.filterMap_cons_none found, List.filterMap_eq_nil_iff.2 (others found)]
        exact (Option.bind_eq_none_iff.2 fun _ there =>
          others found _ (List.mem_of_getElem? (l := rest) there)).symm
      | some value =>
        rw [List.filterMap_cons_some found]
        cases rest with
        | nil => rfl
        | cons second rest =>
          exact filterMap_cons_first_iff.2 (settled [first] second rest rfl Nat.one_lt_two)

end Reading

/-- Seed and increment are in their places exactly where no integer that fits is behind one of the
first two that does not. -/
theorem seed_and_increment_in_place_iff (description : String) :
    ∃ integers, (∀ spelled, Spells description.toList spelled ↔ spelled = integers) ∧
      (InPlace integers (identityOf description) ↔ NoneMovesUp integers) := by
  have spells := Spells.of_spelledIntegers description.toList
  refine ⟨_, fun _ => spells_iff, ?_⟩
  rw [spells.inPlace_iff, spells.noneMovesUp_iff]
  exact filterMap_in_place_iff

/-- The first integer is one more than fits, so the second one is told as the seed. -/
theorem unfit_seed_lets_the_increment_move_up :
    let description := "START 9223372036854775808 INCREMENT 3"
    let integers := ["9223372036854775808".toList, "3".toList]
    Spells description.toList integers ∧ identityOf description = ⟨some 3, none⟩ ∧
      ¬InPlace integers (identityOf description) := by
  intro description integers
  have spells : Spells description.toList integers := spells_iff.2 (by decide +kernel)
  have told : identityOf description = ⟨some 3, none⟩ := by decide +kernel
  refine ⟨spells, told, ?_⟩
  rw [spells.inPlace_iff, told]
  rintro ⟨-, increment⟩
  have second : integers[1]?.bind Text.readInt64? = some 3 := by decide +kernel
  cases increment.trans second

/-! ## What is written is read -/

/-- The clause that declares an identity is read as this identity. -/
theorem identityOf_clause (seed increment : Int64) :
    identityOf (" " ++ (IdentityClause.counting seed increment).render) =
      ⟨some seed, some increment⟩ := by
  have before : Wordy " identity(".toList := wordy_of_all (by decide +kernel)
  have between : Wordy ",".toList := wordy_of_all (by decide +kernel)
  have after : Wordy ")".toList := wordy_of_all (by decide +kernel)
  have opened : " " ++ "identity(" = " identity(" := by decide
  rw [IdentityClause.render]
  simp only [← String.append_assoc]
  rw [opened]
  exact identityOf_two seed increment before between after (by decide) (by decide)

/-- The clause of an identity stands behind the type, and the rest is written as without it. -/
theorem exists_render_of_identity {definition : ColumnDefinition} {clause : IdentityClause}
    (identity : definition.identity = some clause) :
    ∃ rest, definition.render = definition.spelling.render ++ (" " ++ clause.render) ++ rest ∧
      { definition with identity := none }.render = definition.spelling.render ++ rest := by
  simp only [ColumnDefinition.render, identity, String.append_assoc, String.empty_append]
  exact ⟨_, rfl, rfl⟩

/-- A seed and an increment are read as they were written: among any words that keep them apart, in
the clause of a column's definition, and in a report. -/
theorem identity_is_read_as_written (seed increment : Int64) :
    (∀ before between after : String,
      Wordy before.toList → Wordy between.toList → Wordy after.toList → between ≠ "" →
      before.toList.getLast? ≠ some '-' → between.toList.getLast? ≠ some '-' →
      identityOf (before ++ Text.integerText seed.toInt ++ between ++
        Text.integerText increment.toInt ++ after) = ⟨some seed, some increment⟩) ∧
    (∀ (column : Column) (type : DataType), column.type = .ok type → type.supportsIdentity = true →
      column.identity = some ⟨some seed, some increment⟩ →
      ∃ definition clause rest, column.definition = .ok definition ∧
        clause = " " ++ (IdentityClause.counting seed increment).render ∧
        definition.render = definition.spelling.render ++ clause ++ rest ∧
        { definition with identity := none }.render = definition.spelling.render ++ rest ∧
        identityOf clause = ⟨some seed, some increment⟩) ∧
    identityOf (countingText seed increment) = ⟨some seed, some increment⟩ := by
  refine ⟨?_, ?_, identityOf_countingText seed increment⟩
  · intro before between after wordyBefore wordyBetween wordyAfter apart noSign noSignBetween
    have apart : between.toList ≠ [] := mt String.toList_eq_nil_iff.1 apart
    exact identityOf_two seed increment wordyBefore wordyBetween wordyAfter apart
      ⟨noSign, noSignBetween⟩
  · intro column type known supported identity
    have counting : (column.definitionOf type).identity = some (.counting seed increment) := by
      rw [Column.definitionOf, if_pos supported, identity]
      rfl
    obtain ⟨rest, written, without⟩ := exists_render_of_identity counting
    exact ⟨_, _, rest, Column.definition_of_type known, rfl, written, without,
      identityOf_clause seed increment⟩

/-- The words have minus signs in them and the seed is the least there is. -/
theorem identity_is_read_as_written_at_least_seed :
    let column := (Column.declare "id" "int").withIdentity ⟨some Int64.minValue, some (-1)⟩
    (Wordy "->".toList ∧ Wordy "- by ".toList ∧ Wordy "-".toList) ∧
      identityOf "->-9223372036854775808- by -1-" = ⟨some Int64.minValue, some (-1)⟩ ∧
      column.type = .ok .number ∧
      ∃ definition rest, column.definition = .ok definition ∧
        definition.render =
          definition.spelling.render ++ " identity(-9223372036854775808,-1)" ++ rest ∧
        identityOf " identity(-9223372036854775808,-1)" = ⟨some Int64.minValue, some (-1)⟩ := by
  intro column
  have before : Wordy "->".toList := wordy_of_all (by decide +kernel)
  have between : Wordy "- by ".toList := wordy_of_all (by decide +kernel)
  have after : Wordy "-".toList := wordy_of_all (by decide +kernel)
  have known : column.type = .ok .number := by decide +kernel
  obtain ⟨among, declared, -⟩ := identity_is_read_as_written Int64.minValue (-1)
  have told := among "->" "- by " "-" before between after (by decide) (by decide) (by decide)
  obtain ⟨definition, clause, rest, defined, spelled, written, -, read⟩ :=
    declared column .number known rfl rfl
  have text : clause = " identity(-9223372036854775808,-1)" := spelled.trans (by decide +kernel)
  subst text
  exact ⟨⟨before, between, after⟩, told, known, definition, rest, defined, written, read⟩

end WarehouseSchema.Metadata
