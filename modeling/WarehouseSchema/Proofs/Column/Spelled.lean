import WarehouseSchema.Proofs.Column.Legible
import WarehouseSchema.Proofs.Text.Tokens

/-!
# Types are read from their texts

A type is written with its parameters behind it: numbers between parentheses, and a collation. Cut
into tokens, the text says which type is meant and which numbers stand there. Whether these are a
length, or a precision with a scale, is told by the type.

## What is proved

`TypeSpelling.read?_render`: a type is read from its text with exactly the parameters that it was
written with, if they are some that the type takes.

`TypeSpelling.read?` reads any text, and nothing where the text spells no type.
-/

set_option autoImplicit false

namespace WarehouseSchema

open Text
open Statement (Token)
open Statement.Token (Reads)

/-! ## Keywords -/

/-- The type that is declared by a keyword. -/
def DataType.ofKeyword? (keyword : String) : Option DataType :=
  all.find? fun type => type.keyword == keyword

/-- The keyword of a type is that of no other. -/
theorem DataType.ofKeyword?_keyword (type : DataType) : ofKeyword? type.keyword = some type := by
  cases type <;> decide +kernel

/-- A keyword is one word of a statement. -/
theorem DataType.reads_keyword (type : DataType) :
    Reads type.keyword.toList [.word type.keyword] := by
  have every : ∀ type ∈ all, type.keyword.toList ≠ [] ∧
      type.keyword.toList.all Token.isBare = true := by
    decide +kernel
  exact .word (every type (mem_all type)).1 (every type (mem_all type)).2

namespace TypeSpelling

/-! ## Numbers -/

/-- The number that a parameter is, if it is within the range of one. -/
def parameter? (digits : String) : Option UInt32 :=
  (readDigits? digits.toList).bind fun n =>
    if range : n < UInt32.size then some (.ofNatLT n range) else none

/-- A parameter is read from its digits. -/
theorem parameter?_parameter (n : UInt32) : parameter? (parameter n) = some n := by
  have digits : readDigits? (parameter n).toList = some n.toNat := readDigits?_repr n.toNat
  rw [parameter?, digits, Option.bind_some, dif_pos n.toNat_lt, UInt32.ofNatLT_toNat]

/-- A parameter is one word of a statement. -/
theorem reads_parameter (n : UInt32) : Reads (parameter n).toList [.word (parameter n)] := by
  apply Reads.numeric
  · exact toList_repr_ne_nil _
  · show JsonText.Numeric (Nat.repr _).toList
    rw [Nat.toList_repr]
    exact .toDigits _

/-- The tokens of the numbers after a type. -/
def sizeTokens : Option UInt32 → Option UInt32 → List Token
  | some precision, some scale =>
    [.mark '(', .word (parameter precision), .mark ',', .word (parameter scale), .mark ')']
  | some precision, none => [.mark '(', .word (parameter precision), .mark ')']
  | none, _ => []

/-- Reads the numbers after a type, as far as there are any, and says what stands after them. -/
def sizes? : List Token → Option ((Option UInt32 × Option UInt32) × List Token)
  | .mark '(' :: .word first :: .mark ',' :: .word second :: .mark ')' :: rest =>
    (parameter? first).bind fun precision =>
      (parameter? second).map fun scale => ((some precision, some scale), rest)
  | .mark '(' :: .word first :: .mark ')' :: rest =>
    (parameter? first).map fun precision => ((some precision, none), rest)
  | rest => some ((none, none), rest)

/-- The numbers are read as they were written. -/
theorem reads_size (precision scale : Option UInt32) :
    Reads (size precision scale).toList (sizeTokens precision scale) := by
  have closing : Reads [')'] [.mark ')'] := .mark rfl .nil
  cases precision with
  | none => exact .nil
  | some precision =>
    cases scale with
    | none =>
      have characters : (size (some precision) none).toList =
          '(' :: ((parameter precision).toList ++ [')']) := by
        simp [size]
      rw [characters]
      exact .mark rfl ((reads_parameter precision).append (Token.parted_cons rfl _) closing)
    | some scale =>
      have characters : (size (some precision) (some scale)).toList =
          '(' :: ((parameter precision).toList ++ ',' :: ((parameter scale).toList ++ [')'])) := by
        simp [size]
      rw [characters]
      have second := (reads_parameter scale).append (Token.parted_cons rfl _) closing
      exact .mark rfl ((reads_parameter precision).append (Token.parted_cons rfl _)
        (second.mark rfl))

/-! ## Collations -/

/-- The tokens of a collation. -/
def collationTokens : Option String → List Token
  | some collation => [.word "collate", .literal collation]
  | none => []

/-- Reads a collation from all that stands after the numbers of a type. -/
def collation? : List Token → Option (Option String)
  | [] => some none
  | [.word "collate", .literal collation] => some (some collation)
  | _ => none

/-- A collation, or that there is none, is read from its tokens. -/
theorem collation?_tokens (collation : Option String) :
    collation? (collationTokens collation) = some collation := by
  cases collation <;> rfl

/-- A collation is a word and a literal. -/
theorem reads_collation (collation : Option String) :
    Reads (announced " collate " collation) (collationTokens collation) := by
  cases collation with
  | none => exact .nil
  | some text =>
    have word : Reads "collate".toList [.word "collate"] := .word (by decide) (by decide)
    have characters : announced " collate " (some text) =
        ' ' :: ("collate".toList ++ ' ' :: (Quoted.literal text).toList) := by
      simp [announced, ifSome]
    rw [characters]
    exact (word.spaced (.literal text)).space

/-- A collation opens no parenthesis, so that no number is read from it. -/
theorem sizes?_tokens {precision scale : Option UInt32} (scaled : precision = none → scale = none)
    (collation : Option String) :
    sizes? (sizeTokens precision scale ++ collationTokens collation) =
      some ((precision, scale), collationTokens collation) := by
  cases precision with
  | none =>
    rw [scaled rfl]
    cases collation <;> rfl
  | some precision =>
    cases scale with
    | none =>
      show (parameter? (parameter precision)).map _ = _
      rw [parameter?_parameter]
      rfl
    | some scale =>
      show (parameter? (parameter precision)).bind _ = _
      rw [parameter?_parameter, Option.bind_some, parameter?_parameter]
      rfl

/-! ## Types with their parameters -/

/-- The type with the numbers that were read. The first of them is the limit where the type takes
one, and then there is no second. -/
def ofSizes? (type : DataType) (collation : Option String) :
    Option UInt32 × Option UInt32 → Option TypeSpelling
  | (first, second) =>
    if type.takesLimit then
      if second = none then some ⟨type, none, none, first, collation⟩ else none
    else some ⟨type, first, second, none, collation⟩

/-- The type tells which of its parameters the numbers are. -/
theorem ofSizes?_sizes {spelling : TypeSpelling} (fits : spelling.Fits) :
    ofSizes? spelling.type spelling.collation spelling.sizes = some spelling := by
  obtain ⟨scaled, unlimited, unsized⟩ := fits
  obtain ⟨type, precision, scale, limit, collation⟩ := spelling
  unfold ofSizes? sizes
  cases limits : type.takesLimit with
  | true =>
    -- A type with a limit has no precision, hence no scale: its first number is the limit.
    have noPrecision : precision = none := unsized limits
    have noScale : scale = none := scaled noPrecision
    simp [noPrecision, noScale]
  | false =>
    have noLimit : limit = none := unlimited limits
    simp [noLimit]

/-- The tokens of a type with its parameters. -/
def tokens (spelling : TypeSpelling) : List Token :=
  .word spelling.type.keyword ::
    (sizeTokens spelling.sizes.1 spelling.sizes.2 ++ collationTokens spelling.collation)

/-- Reads a type with its parameters from tokens: a keyword, numbers and a collation. -/
def ofTokens? : List Token → Option TypeSpelling
  | .word keyword :: parameters =>
    (DataType.ofKeyword? keyword).bind fun type =>
      (sizes? parameters).bind fun (sizes, rest) =>
        (collation? rest).bind fun collation => ofSizes? type collation sizes
  | _ => none

/-- A type with its parameters is read from its tokens. -/
theorem ofTokens?_tokens {spelling : TypeSpelling} (fits : spelling.Fits) :
    ofTokens? spelling.tokens = some spelling := by
  rw [tokens, ofTokens?, DataType.ofKeyword?_keyword, Option.bind_some,
    sizes?_tokens fits.scaled_sizes, Option.bind_some]
  dsimp only
  rw [collation?_tokens, Option.bind_some]
  exact ofSizes?_sizes fits

/-- The text of a type is read as its keyword and its parameters. -/
theorem reads_render {spelling : TypeSpelling} (fits : spelling.Fits) :
    Reads spelling.render.toList spelling.tokens := by
  have sizes := reads_size spelling.sizes.1 spelling.sizes.2
  rw [toList_render fits]
  refine (DataType.reads_keyword _).append ?_ (sizes.append ?_ (reads_collation _))
  · exact (unopened_size rfl _ _).append (unopened_collation rfl _)
  · exact unopened_collation rfl _

/-- Reads a type with its parameters from the whole of a text. -/
def read? (text : String) : Option TypeSpelling := (Token.scan text.toList).bind ofTokens?

/-- A type is read from its text with all its parameters, and with no other. -/
theorem read?_render {spelling : TypeSpelling} (fits : spelling.Fits) :
    read? spelling.render = some spelling := by
  rw [read?, (reads_render fits).scan_eq, Option.bind_some, ofTokens?_tokens fits]

/-- The text of a number with a precision and a scale. -/
theorem render_number (precision scale : UInt32) :
    render ⟨.number, some precision, some scale, none, none⟩ =
      "number(" ++ parameter precision ++ "," ++ parameter scale ++ ")" := by
  apply String.toList_inj.1
  simp [render, size, DataType.keyword]

end TypeSpelling

end WarehouseSchema
