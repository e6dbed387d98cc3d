import WarehouseSchema.Metadata.Identity
import WarehouseSchema.Proofs.Text.Numeral

/-!
# Identity descriptions are read as they are written

A description holds its integers among words. Words without a digit spell no integer, an integer is
spelled as a whole where no digit follows it, and so the integers of a description are those that
were put into it.
-/

set_option autoImplicit false

namespace WarehouseSchema.Metadata

/-- A text without a decimal digit of any script. -/
def Wordy (text : List Char) : Prop := ∀ c ∈ text, Text.isDecimalDigit c = false

/-- A text without digits is made of words. -/
theorem wordy_of_all {text : List Char}
    (all : text.all (fun c => !Text.isDecimalDigit c) = true) : Wordy text :=
  fun c mem => (Bool.not_eq_true' _).mp (List.all_eq_true.1 all c mem)

/-- Words begin with no digit. -/
theorem takeWhile_of_wordy {text : List Char} (wordy : Wordy text) :
    text.takeWhile Text.isDecimalDigit = [] := by
  cases text with
  | nil => rfl
  | cons c rest => rw [List.takeWhile_cons, wordy c List.mem_cons_self, if_neg Bool.false_ne_true]

theorem dropWhile_eq_self {text : List Char} (ends : text.takeWhile Text.isDecimalDigit = []) :
    text.dropWhile Text.isDecimalDigit = text := by
  have parts := List.takeWhile_append_dropWhile (p := Text.isDecimalDigit) (l := text)
  rw [ends, List.nil_append] at parts
  exact parts

theorem takeWhile_dropWhile (text : List Char) :
    (text.dropWhile Text.isDecimalDigit).takeWhile Text.isDecimalDigit = [] := by
  have begins := List.head?_dropWhile_not Text.isDecimalDigit text
  cases left : text.dropWhile Text.isDecimalDigit with
  | nil => rfl
  | cons c rest =>
    rw [left] at begins
    exact List.takeWhile_cons_of_neg (Bool.not_eq_true _ ▸ begins)

/-! ## Words -/

/-- A character that is no digit is passed over, unless it is the sign of what follows. -/
theorem spelledIntegers_cons_of_not {c : Char} {rest : List Char}
    (noDigit : Text.isDecimalDigit c = false)
    (noSign : c = '-' → rest.takeWhile Text.isDecimalDigit = []) :
    spelledIntegers (c :: rest) = spelledIntegers rest := by
  have passed : (c == '-' && !(rest.takeWhile Text.isDecimalDigit).isEmpty) = false := by
    by_cases sign : c = '-'
    · rw [noSign sign, List.isEmpty_nil, Bool.not_true, Bool.and_false]
    · rw [beq_eq_false_iff_ne.2 sign, Bool.false_and]
  rw [spelledIntegers, noDigit, passed]
  rfl

/-- Words before a text are passed over, unless they end in a minus sign before a digit. The
induction is on the words; only the last of them stands next to the text. -/
theorem spelledIntegers_append_of_wordy {words text : List Char} (wordy : Wordy words)
    (apart : words.getLast? = some '-' → text.takeWhile Text.isDecimalDigit = []) :
    spelledIntegers (words ++ text) = spelledIntegers text := by
  induction words with
  | nil => rfl
  | cons c rest ih =>
    have noDigit := wordy c List.mem_cons_self
    have wordyRest : Wordy rest := fun d mem => wordy d (List.mem_cons_of_mem _ mem)
    cases rest with
    | nil =>
      apply spelledIntegers_cons_of_not noDigit
      intro sign
      exact apart (congrArg some sign)
    | cons d rest =>
      rw [List.getLast?_cons_cons] at apart
      refine (spelledIntegers_cons_of_not noDigit fun _ => ?_).trans (ih wordyRest apart)
      show (d :: (rest ++ text)).takeWhile Text.isDecimalDigit = []
      rw [List.takeWhile_cons, wordyRest d List.mem_cons_self, if_neg Bool.false_ne_true]

/-- Words spell no integer. -/
theorem spelledIntegers_of_wordy {words : List Char} (wordy : Wordy words) :
    spelledIntegers words = [] := by
  induction words with
  | nil => rw [spelledIntegers]
  | cons c rest ih =>
    have wordyRest : Wordy rest := fun d mem => wordy d (List.mem_cons_of_mem _ mem)
    rw [spelledIntegers_cons_of_not (wordy c List.mem_cons_self)
      fun _ => takeWhile_of_wordy wordyRest]
    exact ih wordyRest

/-! ## Integers -/

/-- An integer begins with a character that is a digit, or a minus sign before one, and goes on as
far as there are digits. -/
theorem spelledIntegers_cons {c : Char} {digits text : List Char}
    (begins : (Text.isDecimalDigit c || (c == '-' && !digits.isEmpty)) = true)
    (all : ∀ d ∈ digits, Text.isDecimalDigit d = true)
    (ends : text.takeWhile Text.isDecimalDigit = []) :
    spelledIntegers (c :: (digits ++ text)) = (c :: digits) :: spelledIntegers text := by
  have taken : (digits ++ text).takeWhile Text.isDecimalDigit = digits := by
    rw [List.takeWhile_append_of_pos all, ends, List.append_nil]
  have left : (digits ++ text).dropWhile Text.isDecimalDigit = text := by
    rw [List.dropWhile_append_of_pos all, dropWhile_eq_self ends]
  rw [spelledIntegers, taken, left, if_pos begins]

/-- A number is spelled as a whole where no digit follows it. -/
theorem spelledIntegers_integerText_append (n : Int) {text : List Char}
    (ends : text.takeWhile Text.isDecimalDigit = []) :
    spelledIntegers ((Text.integerText n).toList ++ text) =
      (Text.integerText n).toList :: spelledIntegers text := by
  have all : ∀ d ∈ n.natAbs.repr.toList, Text.isDecimalDigit d = true :=
    fun d mem => Text.isDecimalDigit_of_isDigit (Text.isDigit_of_mem_repr mem)
  obtain ⟨first, rest, written, digit⟩ := Text.exists_toList_repr n.natAbs
  by_cases negative : n < 0
  · rw [Text.toList_integerText_of_neg negative]
    refine spelledIntegers_cons ?_ all ends
    rw [written]
    rfl
  · rw [Text.toList_integerText_of_nonneg (Int.not_lt.1 negative)]
    rw [written] at all ⊢
    refine spelledIntegers_cons ?_ (fun d mem => all d (List.mem_cons_of_mem _ mem)) ends
    rw [all first List.mem_cons_self, Bool.true_or]

/-- A description with two integers among words spells exactly these. -/
theorem spelledIntegers_two {before between after : List Char} (first second : Int)
    (wordyBefore : Wordy before) (wordyBetween : Wordy between) (wordyAfter : Wordy after)
    (apart : between ≠ []) (noSign : before.getLast? ≠ some '-' ∧ between.getLast? ≠ some '-') :
    spelledIntegers (before ++ ((Text.integerText first).toList ++
        (between ++ ((Text.integerText second).toList ++ after)))) =
      [(Text.integerText first).toList, (Text.integerText second).toList] := by
  rw [spelledIntegers_append_of_wordy wordyBefore fun last => absurd last noSign.1,
    spelledIntegers_integerText_append first ?_,
    spelledIntegers_append_of_wordy wordyBetween fun last => absurd last noSign.2,
    spelledIntegers_integerText_append second (takeWhile_of_wordy wordyAfter),
    spelledIntegers_of_wordy wordyAfter]
  obtain ⟨c, rest, rfl⟩ := List.exists_cons_of_ne_nil apart
  rw [List.cons_append, List.takeWhile_cons, wordyBetween c List.mem_cons_self,
    if_neg Bool.false_ne_true]

theorem toList_two (before between after : String) (first second : Int) :
    (before ++ Text.integerText first ++ between ++ Text.integerText second ++ after).toList =
      before.toList ++ ((Text.integerText first).toList ++
        (between.toList ++ ((Text.integerText second).toList ++ after.toList))) := by
  simp only [String.toList_append, List.append_assoc]

/-- The integers of such a text that fit 64 bits are the two that were put into it. -/
theorem integers_two {before between after : String} (first second : Int64)
    (wordyBefore : Wordy before.toList) (wordyBetween : Wordy between.toList)
    (wordyAfter : Wordy after.toList) (apart : between.toList ≠ [])
    (noSign : before.toList.getLast? ≠ some '-' ∧ between.toList.getLast? ≠ some '-') :
    integers (before ++ Text.integerText first.toInt ++ between ++
      Text.integerText second.toInt ++ after) = [first, second] := by
  rw [integers, toList_two,
    spelledIntegers_two first.toInt second.toInt wordyBefore wordyBetween wordyAfter apart noSign,
    List.filterMap_cons, Text.readInt64?_integerText, List.filterMap_cons,
    Text.readInt64?_integerText, List.filterMap_nil]

/-- Two integers among words are the seed and the increment. -/
theorem identityOf_two {before between after : String} (seed increment : Int64)
    (wordyBefore : Wordy before.toList) (wordyBetween : Wordy between.toList)
    (wordyAfter : Wordy after.toList) (apart : between.toList ≠ [])
    (noSign : before.toList.getLast? ≠ some '-' ∧ between.toList.getLast? ≠ some '-') :
    identityOf (before ++ Text.integerText seed.toInt ++ between ++
      Text.integerText increment.toInt ++ after) = ⟨some seed, some increment⟩ := by
  rw [identityOf, integers_two seed increment wordyBefore wordyBetween wordyAfter apart noSign]
  rfl

end WarehouseSchema.Metadata
