import WarehouseSchema.Json.Compact
import WarehouseSchema.Json.Document
import WarehouseSchema.Proofs.Json.Numeral
import WarehouseSchema.Proofs.Json.Strings

/-!
# Compact text is read as the document that was written

The compact text of a value is cut into the tokens of the value, and the tokens are taken in as the
document of the value.

## What is proved

`Document.parse?_characters`: the characters of a value are read as its document, in which whole
numbers are still spelled and the members of objects stand in their order. Values with binary64
numbers are left out.

Both halves are inductions over values, lists of items and lists of members together. The first goes
with what follows the value in the text, which must not go on with a numeral; the second with the
containers that are open around it.
-/

set_option autoImplicit false

namespace WarehouseSchema

open JsonText

namespace Json

mutual

/-- Whether all numbers of a value are whole. -/
def isWhole : Json → Bool
  | .number (.float _) => false
  | .array items => areWhole items
  | .object members => membersAreWhole members
  | _ => true

/-- Whether all numbers of some values are whole. -/
def areWhole : List Json → Bool
  | [] => true
  | item :: rest => isWhole item && areWhole rest

/-- Whether all numbers of the values of some members are whole. -/
def membersAreWhole : List (String × Json) → Bool
  | [] => true
  | (_, value) :: rest => isWhole value && membersAreWhole rest

end

mutual

/-- The document that a value without binary64 numbers is written as. -/
def document : Json → Document
  | .null => .null
  | .bool b => .bool b
  | .number (.integer n) => .numeral (.ofInteger n)
  | .number (.float _) => .null
  | .string s => .string (some s)
  | .array items => .array (itemDocuments items)
  | .object members => .object (memberDocuments members)

/-- The documents of some values. -/
def itemDocuments : List Json → List Document
  | [] => []
  | item :: rest => document item :: itemDocuments rest

/-- The documents of some members. -/
def memberDocuments : List (String × Json) → List (Option String × Document)
  | [] => []
  | (name, value) :: rest => (some name, document value) :: memberDocuments rest

end

mutual

/-- The tokens of a value without binary64 numbers. -/
def tokens : Json → List Token
  | .null => [.null]
  | .bool b => [.bool b]
  | .number (.integer n) => [.numeral (.ofInteger n)]
  | .number (.float _) => [.null]
  | .string s => [.string (some s)]
  | .array items => .openArray :: itemTokens items ++ [.closeArray]
  | .object members => .openObject :: memberTokens members ++ [.closeObject]

/-- The tokens of the items of an array. -/
def itemTokens : List Json → List Token
  | [] => []
  | [item] => tokens item
  | item :: next :: rest => tokens item ++ .comma :: itemTokens (next :: rest)

/-- The tokens of the members of an object. -/
def memberTokens : List (String × Json) → List Token
  | [] => []
  | [(name, value)] => .string (some name) :: .colon :: tokens value
  | (name, value) :: next :: rest =>
    .string (some name) :: .colon :: tokens value ++ .comma :: memberTokens (next :: rest)

end

end Json

namespace JsonText

/-! ## The first token of a text -/

namespace Token

/-- A token at the beginning of a text is the first one of its tokens. -/
theorem scan_of_first? {c : Char} {rest after : List Char} {token : Token}
    (noSpace : isSpace c = false) (read : first? (c :: rest) = some (token, after)) :
    scan (c :: rest) = (scan after).map (token :: ·) := by
  rw [scan, noSpace, if_neg Bool.false_ne_true]
  split
  · rename_i none
    rw [none] at read
    cases read
  · rename_i other
    rw [other] at read
    cases read
    rfl

/-- A mark is a token by itself. -/
theorem scan_punctuation (c : Char) {token : Token} (noSpace : isSpace c = false)
    (mark : punctuation? c = some token) (rest : List Char) :
    scan (c :: rest) = (scan rest).map (token :: ·) := by
  refine scan_of_first? noSpace ?_
  rw [first?, mark]

/-- A digit is no punctuation and no quote, and it does not stand between tokens. -/
theorem punctuation?_of_isDigit {c : Char} (digit : c.isDigit = true) : punctuation? c = none := by
  have apart := fun (d : Char) (other : d.isDigit = false) => Text.ne_of_class digit other
  rw [punctuation?, if_neg (apart '[' rfl), if_neg (apart ']' rfl), if_neg (apart '\x7b' rfl),
    if_neg (apart '\x7d' rfl), if_neg (apart ',' rfl), if_neg (apart ':' rfl)]

/-- A digit is no space. -/
theorem isSpace_of_isDigit {c : Char} (digit : c.isDigit = true) : isSpace c = false := by
  have apart := fun (d : Char) (other : d.isDigit = false) =>
    beq_eq_false_iff_ne.2 (Text.ne_of_class digit other)
  rw [isSpace, apart ' ' rfl, apart '\t' rfl, apart '\n' rfl, apart '\r' rfl]
  rfl

/-- A string is one token, up to its closing quote. -/
theorem scan_quoted (text : String) (rest : List Char) :
    scan (quoted text.toList ++ rest) = (scan rest).map (.string (some text) :: ·) := by
  have body : bodyCodes (text.toList.flatMap escaped ++ ['"'] ++ rest) =
      some (text.toList.map Char.toNat, rest) := by
    rw [List.append_assoc]
    exact bodyCodes_flatMap_escaped text.toList rest
  refine scan_of_first? rfl ?_
  rw [first?]
  show (bodyCodes (text.toList.flatMap escaped ++ ['"'] ++ rest)).map _ = _
  rw [body, Option.map_some]
  dsimp only
  rw [ofCodes?_map_toNat, Option.map_some, String.ofList_toList]

/-- A numeral is a token where a minus sign or a digit begins it. -/
theorem first?_of_scan? {c : Char} {rest after : List Char} {spelled : Numeral}
    (begins : c = '-' ∨ c.isDigit = true)
    (read : Numeral.scan? (c :: rest) = some (spelled, after)) :
    first? (c :: rest) = some (.numeral spelled, after) := by
  have noPunctuation : punctuation? c = none := by
    rcases begins with rfl | digit
    · rfl
    · exact punctuation?_of_isDigit digit
  have noQuote : c ≠ '"' := by
    rcases begins with rfl | digit
    · decide
    · exact Text.ne_of_class digit rfl
  rw [first?, noPunctuation]
  dsimp only
  rw [if_neg noQuote, if_pos begins, read, Option.map_some]

/-- A whole number is one token, up to where it ends. -/
theorem scan_integerText (n : Int) {rest : List Char} (ends : Delimited rest) :
    scan ((Text.integerText n).toList ++ rest) =
      (scan rest).map (.numeral (.ofInteger n) :: ·) := by
  have read := Numeral.scan?_integerText n ends
  by_cases negative : n < 0
  · rw [Text.toList_integerText_of_neg negative, List.cons_append] at read ⊢
    exact scan_of_first? rfl (first?_of_scan? (.inl rfl) read)
  · obtain ⟨first, digits, written, digit⟩ := Text.exists_toList_repr n.natAbs
    rw [Text.toList_integerText_of_nonneg (Int.not_lt.1 negative), written,
      List.cons_append] at read ⊢
    exact scan_of_first? (isSpace_of_isDigit digit) (first?_of_scan? (.inr digit) read)

end Token

/-! ## The tokens of a compact text -/

open Json

mutual

/-- The characters of a value are cut into its tokens. -/
theorem scan_characters : ∀ {value : Json}, value.isWhole = true → ∀ {rest : List Char},
    Delimited rest →
      Token.scan (value.characters ++ rest) = (Token.scan rest).map (value.tokens ++ ·)
  | .null, _, _, _ => Token.scan_of_first? rfl rfl
  | .bool true, _, _, _ => Token.scan_of_first? rfl rfl
  | .bool false, _, _, _ => Token.scan_of_first? rfl rfl
  | .number (.integer n), _, _, ends => Token.scan_integerText n ends
  | .number (.float _), whole, _, _ => by cases whole
  | .string text, _, rest, _ => Token.scan_quoted text rest
  | .array items, whole, rest, _ => by
    have wholeItems : areWhole items = true := whole
    rw [characters, List.cons_append, List.cons_append, List.append_assoc, List.singleton_append,
      Token.scan_punctuation '[' rfl rfl, scan_itemCharacters wholeItems (.closeArray rest),
      Token.scan_punctuation ']' rfl rfl]
    cases Token.scan rest <;> simp [tokens]
  | .object members, whole, rest, _ => by
    have wholeMembers : membersAreWhole members = true := whole
    rw [characters, List.cons_append, List.cons_append, List.append_assoc, List.singleton_append,
      Token.scan_punctuation '\x7b' rfl rfl, scan_memberCharacters wholeMembers (.closeObject rest),
      Token.scan_punctuation '\x7d' rfl rfl]
    cases Token.scan rest <;> simp [tokens]

/-- Items are read as their tokens, with commas between them. -/
theorem scan_itemCharacters : ∀ {items : List Json}, areWhole items = true →
    ∀ {rest : List Char}, Delimited rest →
      Token.scan (itemCharacters items ++ rest) = (Token.scan rest).map (itemTokens items ++ ·)
  | [], _, rest, _ => by
    rw [itemCharacters, itemTokens]
    exact Option.map_id'.symm
  | [item], whole, rest, ends => by
    rw [itemCharacters, itemTokens]
    exact scan_characters (Bool.and_eq_true_iff.1 whole).1 ends
  | item :: next :: others, whole, rest, ends => by
    obtain ⟨wholeItem, wholeRest⟩ := Bool.and_eq_true_iff.1 whole
    rw [itemCharacters, List.append_assoc, List.cons_append,
      scan_characters wholeItem (.comma _), Token.scan_punctuation ',' rfl rfl,
      scan_itemCharacters wholeRest ends]
    cases Token.scan rest <;> simp [itemTokens]

/-- Members are read as their tokens, with commas between them and a colon in each. -/
theorem scan_memberCharacters : ∀ {members : List (String × Json)},
    membersAreWhole members = true → ∀ {rest : List Char}, Delimited rest →
      Token.scan (memberCharacters members ++ rest) =
        (Token.scan rest).map (memberTokens members ++ ·)
  | [], _, _, _ => by
    rw [memberCharacters, memberTokens]
    exact Option.map_id'.symm
  | [(name, value)], whole, rest, ends => by
    rw [memberCharacters, List.append_assoc, List.cons_append, Token.scan_quoted,
      Token.scan_punctuation ':' rfl rfl, scan_characters (Bool.and_eq_true_iff.1 whole).1 ends]
    cases Token.scan rest <;> simp [memberTokens]
  | (name, value) :: next :: others, whole, rest, ends => by
    obtain ⟨wholeValue, wholeRest⟩ := Bool.and_eq_true_iff.1 whole
    simp only [memberCharacters, List.append_assoc, List.cons_append]
    rw [Token.scan_quoted, Token.scan_punctuation ':' rfl rfl,
      scan_characters wholeValue (.comma _), Token.scan_punctuation ',' rfl rfl,
      scan_memberCharacters wholeRest ends]
    cases Token.scan rest <;> simp [memberTokens]

end

/-! ## The document of the tokens -/

namespace Document

/-- The first value of an array is taken in like every other one. -/
theorem foldlM_itemOrEnd (value : Json) (frames : List Frame) (rest : List Token) :
    (value.tokens ++ rest).foldlM step (.itemOrEnd frames) =
      (value.tokens ++ rest).foldlM step (.value (.item [] :: frames)) := by
  cases value with
  | number n => cases n <;> rfl
  | _ => rfl

/-- A list with an item may not end where the item is expected. -/
theorem foldlM_itemTokens_of_ne_nil {items : List Json} (present : items ≠ []) (frames : List Frame)
    (rest : List Token) :
    (itemTokens items ++ rest).foldlM step (.itemOrEnd frames) =
      (itemTokens items ++ rest).foldlM step (.value (.item [] :: frames)) := by
  match items with
  | [] => exact absurd rfl present
  | [item] => exact foldlM_itemOrEnd item frames rest
  | item :: next :: others =>
    rw [itemTokens, List.append_assoc]
    exact foldlM_itemOrEnd item frames _

/-- The first member of an object is taken in like every other one. -/
theorem foldlM_memberTokens_of_ne_nil {members : List (String × Json)} (present : members ≠ [])
    (frames : List Frame) (rest : List Token) :
    (memberTokens members ++ rest).foldlM step (.nameOrEnd frames) =
      (memberTokens members ++ rest).foldlM step (.name [] frames) := by
  match members with
  | [] => exact absurd rfl present
  | [(name, value)] => rfl
  | (name, value) :: next :: others => rfl

mutual

/-- The tokens of a value put its document where a value is waited for. -/
theorem foldlM_tokens : ∀ (value : Json) (frames : List Frame) (rest : List Token),
    (value.tokens ++ rest).foldlM step (.value frames) =
      rest.foldlM step (fill value.document frames)
  | .null, _, _ => rfl
  | .bool _, _, _ => rfl
  | .number (.integer _), _, _ => rfl
  | .number (.float _), _, _ => rfl
  | .string _, _, _ => rfl
  | .array items, frames, rest => by
    by_cases none : items = []
    · rw [none]
      rfl
    · have taken := foldlM_itemTokens items none [] frames (.closeArray :: rest)
      rw [List.append_nil, ← foldlM_itemTokens_of_ne_nil none] at taken
      rw [tokens, List.cons_append, List.cons_append, List.append_assoc, List.singleton_append]
      refine taken.trans ?_
      show rest.foldlM step (fill (.array (itemDocuments items).reverse.reverse) frames) = _
      rw [List.reverse_reverse, document]
  | .object members, frames, rest => by
    by_cases none : members = []
    · rw [none]
      rfl
    · have taken := foldlM_memberTokens members none [] frames (.closeObject :: rest)
      rw [List.append_nil, ← foldlM_memberTokens_of_ne_nil none] at taken
      rw [tokens, List.cons_append, List.cons_append, List.append_assoc, List.singleton_append]
      refine taken.trans ?_
      show rest.foldlM step (fill (.object (memberDocuments members).reverse.reverse) frames) = _
      rw [List.reverse_reverse, document]

theorem foldlM_itemTokens : ∀ (items : List Json), items ≠ [] →
    ∀ (before : List Document) (frames : List Frame) (rest : List Token),
      (itemTokens items ++ rest).foldlM step (.value (.item before :: frames)) =
        rest.foldlM step (.afterItem ((itemDocuments items).reverse ++ before) frames)
  | [], present, _, _, _ => absurd rfl present
  | [item], _, before, frames, rest => foldlM_tokens item (.item before :: frames) rest
  | item :: next :: others, _, before, frames, rest => by
    have later := foldlM_itemTokens (next :: others) (List.cons_ne_nil _ _)
      (document item :: before) frames rest
    rw [itemTokens, List.append_assoc, foldlM_tokens item]
    refine later.trans ?_
    rw [itemDocuments.eq_2 item, List.reverse_cons, List.append_assoc]
    rfl

theorem foldlM_memberTokens : ∀ (members : List (String × Json)), members ≠ [] →
    ∀ (before : List (Option String × Document)) (frames : List Frame) (rest : List Token),
      (memberTokens members ++ rest).foldlM step (.name before frames) =
        rest.foldlM step (.afterMember ((memberDocuments members).reverse ++ before) frames)
  | [], present, _, _, _ => absurd rfl present
  | [(name, value)], _, before, frames, rest =>
    foldlM_tokens value (.member before (.some name) :: frames) rest
  | (name, value) :: next :: others, _, before, frames, rest => by
    have later := foldlM_memberTokens (next :: others) (List.cons_ne_nil _ _)
      ((some name, document value) :: before) frames rest
    rw [memberTokens, List.append_assoc]
    refine (foldlM_tokens value (.member before (some name) :: frames) _).trans ?_
    refine later.trans ?_
    rw [memberDocuments.eq_2 name, List.reverse_cons, List.append_assoc]
    rfl

end

/-- The compact text of a value is read as the document of the value. -/
theorem parse?_characters {value : Json} (whole : value.isWhole = true) :
    parse? value.characters = some value.document := by
  have scanned := scan_characters whole .nil
  have taken := foldlM_tokens value [] []
  rw [List.append_nil] at scanned taken
  have finished : Token.scan [] = some [] := by rw [Token.scan]
  rw [parse?, scanned, finished, Option.map_some, Option.bind_some, List.append_nil, ofTokens?,
    taken]
  rfl

end Document

end JsonText

end WarehouseSchema
