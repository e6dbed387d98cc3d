import WarehouseSchema.Column.Definition
import WarehouseSchema.Proofs.DataType.Spelling
import WarehouseSchema.Proofs.Text.Legible

/-!
# Column definitions are read in one way

The pieces of a definition are written one after another, and most of them may be absent. Each of
them begins in its own way, and only the text of a comment or of a collation is free; that stands in
a literal.

A default and the properties of a column are put into the definition as they are, so the law is
about definitions without them.
-/

set_option autoImplicit false

namespace WarehouseSchema

open Text

/-- No two types have the same keyword. -/
theorem DataType.keyword_injective {a b : DataType} (same : a.keyword = b.keyword) : a = b := by
  have meant := resolve_keyword a
  rw [same, resolve_keyword] at meant
  exact (Except.ok.inj meant).symm

/-- Whether a character may stand in the keyword of a type. -/
def DataType.isKeywordCharacter (c : Char) : Bool := c.isLower || c == '_'

/-- A keyword ends before a character that is in none. -/
theorem DataType.legible_keyword :
    Legible (fun _ => True) (fun type : DataType => type.keyword.toList)
      (Unopened isKeywordCharacter) := by
  apply (legible_run isKeywordCharacter).comap
  · intro type _ c mem
    have every : ∀ type ∈ all, type.keyword.toList.all isKeywordCharacter = true := by
      decide +kernel
    exact List.all_eq_true.1 (every type (mem_all type)) c mem
  · intro a b _ _ same
    exact keyword_injective (String.toList_inj.1 same)

namespace TypeSpelling

/-! ## The numbers of a type -/

/-- A parameter ends before a character that is no digit. -/
theorem legible_parameter :
    Legible (fun _ => True) (fun n : UInt32 => (parameter n).toList) (Unopened Char.isDigit) :=
  legible_repr.comap (fun _ _ => trivial) fun _ _ _ _ => UInt32.toNat_inj.1

/-- A number and perhaps another, up to the closing parenthesis. -/
def sizeCharacters (sizes : UInt32 × Option UInt32) : List Char :=
  (parameter sizes.1).toList ++
    (ifSome (fun n => [','] ++ (parameter n).toList) sizes.2 ++ [')'])

/-- The numbers of a type end with the closing parenthesis, whatever follows. -/
theorem legible_sizeCharacters :
    Legible (fun _ => True) sizeCharacters (fun _ => True) := by
  have scale : Legible (fun _ : Option UInt32 => True)
      (fun item => ifSome (fun n => [','] ++ (parameter n).toList) item ++ [')'])
      (fun _ => True) := by
    apply (legible_parameter.optional_total [',']).before
    intro r _
    exact ⟨unopened_cons.2 rfl, not_prefix_of_head (by decide) [] r⟩
  apply (legible_parameter.pair scale ?_).of_valid fun _ _ => ⟨trivial, trivial⟩
  intro item r _ _
  rw [List.append_assoc]
  exact (unopened_ifSome (fun n => unopened_cons.2 rfl) item).append (unopened_cons.2 rfl)

/-- Numbers between parentheses can be told from none before a text that opens no parenthesis. -/
theorem legible_size :
    Legible (fun sizes : Option UInt32 × Option UInt32 => sizes.1 = none → sizes.2 = none)
      (fun sizes => (size sizes.1 sizes.2).toList) (Unopened (· == '(')) := by
  have bracketed : Legible
      (fun sizes : Option UInt32 × Option UInt32 => sizes.1 = none → sizes.2 = none)
      (fun sizes => ifSome (fun sizes => ['('] ++ sizeCharacters sizes)
        (sizes.1.map (·, sizes.2))) (Unopened (· == '(')) := by
    refine ((legible_sizeCharacters.optional ['(']).of_follows ?_).comap ?_ ?_
    · exact fun r unopened => ⟨trivial, not_prefix_of_unopened unopened []⟩
    · exact fun _ _ _ _ => trivial
    · rintro ⟨_ | precision, scale⟩ ⟨_ | other, scale'⟩ scaled scaled' same
      · rw [show scale = none from scaled rfl, show scale' = none from scaled' rfl]
      · cases same
      · cases same
      · cases same
        rfl
  apply bracketed.congr
  rintro ⟨_ | precision, scale⟩ scaled
  · rw [show scale = none from scaled rfl]
    rfl
  · cases scale with
    | none => simp [size, sizeCharacters, ifSome]
    | some scale => simp [size, sizeCharacters, ifSome]

/-! ## Types with their parameters -/

/-- The parameters of a spelling are some that its type can be spelled with. -/
structure Fits (spelling : TypeSpelling) : Prop where
  scaled : spelling.precision = none → spelling.scale = none
  unlimited : spelling.type.takesLimit = false → spelling.limit = none
  unsized : spelling.type.takesLimit = true → spelling.precision = none

/-- The numbers of a spelling: the limit, or the precision with the scale. -/
def sizes (spelling : TypeSpelling) : Option UInt32 × Option UInt32 :=
  (if spelling.type.takesLimit then spelling.limit else spelling.precision, spelling.scale)

/-- There is no second number without a first. -/
theorem Fits.scaled_sizes {spelling : TypeSpelling} (fits : spelling.Fits) :
    spelling.sizes.1 = none → spelling.sizes.2 = none := by
  unfold sizes
  cases limits : spelling.type.takesLimit with
  | true => exact fun _ => fits.scaled (fits.unsized limits)
  | false => exact fits.scaled

/-- Fitting parameters are told by their numbers, since the type tells which of them they are. -/
theorem Fits.eq_of_sizes {spelling other : TypeSpelling} (fits : spelling.Fits)
    (fits' : other.Fits) (same : (spelling.type, spelling.sizes, spelling.collation) =
      (other.type, other.sizes, other.collation)) : spelling = other := by
  obtain ⟨-, unlimited, unsized⟩ := fits
  obtain ⟨-, unlimited', unsized'⟩ := fits'
  obtain ⟨type, precision, scale, limit, collation⟩ := spelling
  obtain ⟨type', precision', scale', limit', collation'⟩ := other
  unfold sizes at same
  cases limits : type.takesLimit with
  | true => simp_all
  | false => simp_all

/-- The text of a type is its keyword, its numbers and its collation, one after another. -/
theorem toList_render {spelling : TypeSpelling} (fits : spelling.Fits) :
    spelling.render.toList = spelling.type.keyword.toList ++
      ((size spelling.sizes.1 spelling.sizes.2).toList ++
        announced " collate " spelling.collation) := by
  -- One of the two sizes is empty: a type takes a limit or a precision, never both.
  have numbers : (size spelling.precision spelling.scale).toList ++
        (size spelling.limit none).toList =
      (size spelling.sizes.1 spelling.sizes.2).toList := by
    unfold sizes
    cases limits : spelling.type.takesLimit with
    | true =>
      rw [fits.unsized limits, fits.scaled (fits.unsized limits)]
      rfl
    | false =>
      rw [fits.unlimited limits]
      exact List.append_nil _
  rw [← numbers]
  cases collated : spelling.collation with
  | none => simp [render, collated, announced, ifSome]
  | some collation => simp [render, collated, announced, ifSome]

/-- Numbers begin with a parenthesis, if there are any. -/
theorem unopened_size {p : Char → Bool} (other : p '(' = false) (precision scale : Option UInt32) :
    Unopened p (size precision scale).toList := by
  cases precision with
  | none => exact unopened_nil p
  | some precision =>
    cases scale with
    | none => simpa [size, unopened_cons] using other
    | some scale => simpa [size, unopened_cons] using other

/-- A collation can be told from none before a clause that begins in another way. -/
theorem legible_collation :
    Legible (fun _ => True) (announced " collate ")
      (fun r => ∃ c rest, r = ' ' :: c :: rest ∧ c ≠ 'c') := by
  apply (legible_announced " collate ").of_follows
  rintro _ ⟨c, rest, rfl, other⟩
  exact ⟨unopened_cons.2 rfl, not_prefix_of_second other.symm _ _ _⟩

/-- A collation begins with a space, if there is one. -/
theorem unopened_collation {p : Char → Bool} (other : p ' ' = false) (collation : Option String) :
    Unopened p (announced " collate " collation) :=
  unopened_ifSome (fun _ => unopened_cons.2 other) collation

/-- The text of a type with its parameters ends before a clause that is not a collation. -/
theorem legible_render :
    Legible Fits (fun spelling => spelling.render.toList)
      (fun r => ∃ c rest, r = ' ' :: c :: rest ∧ c ≠ 'c') := by
  have parameters := legible_size.pair legible_collation fun collation r _ follows => by
    obtain ⟨c, rest, rfl, -⟩ := follows
    exact (unopened_collation rfl collation).append (unopened_cons.2 rfl)
  have whole := DataType.legible_keyword.pair parameters fun parameters r _ follows => by
    obtain ⟨c, rest, rfl, -⟩ := follows
    exact ((unopened_size rfl _ _).append (unopened_collation rfl _)).append (unopened_cons.2 rfl)
  refine (whole.comap (f := fun spelling : TypeSpelling => (spelling.type, spelling.sizes,
    spelling.collation)) ?_ ?_).congr fun spelling fits => toList_render fits
  · exact fun spelling fits => ⟨trivial, fits.scaled_sizes, trivial⟩
  · exact fun spelling other fits fits' same => fits.eq_of_sizes fits' same

end TypeSpelling

namespace IdentityClause

/-- The two numbers that a clause may have. -/
def counters : IdentityClause → Option (Int64 × Int64)
  | .bare => none
  | .counting seed increment => some (seed, increment)

/-- The text of the two numbers, up to the closing parenthesis. -/
def counterCharacters (counters : Int64 × Int64) : List Char :=
  (Text.integerText counters.1.toInt).toList ++
    ([','] ++ ((Text.integerText counters.2.toInt).toList ++ [')']))

/-- The text of a clause after its keyword. -/
def countingCharacters (clause : IdentityClause) : List Char :=
  ifSome (fun counters => ['('] ++ counterCharacters counters) clause.counters

theorem toList_render (clause : IdentityClause) :
    clause.render.toList = "identity".toList ++ countingCharacters clause := by
  cases clause with
  | bare => rfl
  | counting seed increment =>
    simp [render, countingCharacters, counters, counterCharacters, ifSome]

/-- The two numbers of an identity end with the closing parenthesis. -/
theorem legible_counterCharacters : Legible (fun _ => True) counterCharacters (fun _ => True) := by
  have increment : Legible (fun _ : Int64 => True)
      (fun n => [','] ++ ((Text.integerText n.toInt).toList ++ [')'])) (fun _ => True) :=
    (legible_integerText.before [')'] fun _ _ => unopened_cons.2 rfl).behind [',']
  exact (legible_integerText.pair increment fun _ _ _ _ => unopened_cons.2 rfl).of_valid
    fun _ _ => ⟨trivial, trivial⟩

/-- An identity with its two numbers can be told from a bare one. -/
theorem legible_countingCharacters :
    Legible (fun _ => True) countingCharacters (Unopened (· == '(')) := by
  refine ((legible_counterCharacters.optional ['(']).of_follows ?_).comap ?_ ?_
  · exact fun r unopened => ⟨trivial, not_prefix_of_unopened unopened []⟩
  · exact fun _ _ _ _ => trivial
  · intro clause other _ _ same
    cases clause <;> cases other <;> cases same <;> rfl

end IdentityClause

namespace ColumnDefinition

/-- The definition has neither a default nor properties, and its type is spelled with parameters of
its own. -/
structure Plain (definition : ColumnDefinition) : Prop where
  fits : definition.spelling.Fits
  default : definition.default = none
  properties : definition.properties = []

/-- The text of an identity clause, where there is one. -/
def identityCharacters : Option IdentityClause → List Char :=
  ifSome fun clause => " identity".toList ++ clause.countingCharacters

/-- The text that says whether nulls are allowed. -/
def nullCharacters (nullable : Bool) : List Char :=
  (if nullable then " null" else " not null").toList

theorem toList_render {definition : ColumnDefinition} (plain : definition.Plain) :
    definition.render.toList = definition.spelling.render.toList ++
      (identityCharacters definition.identity ++
        (nullCharacters definition.nullable ++ announced " comment " definition.comment)) := by
  obtain ⟨spelling, identity, nullable, default, properties, comment⟩ := definition
  obtain ⟨-, rfl, rfl⟩ := plain
  cases identity <;> cases comment <;>
    simp [render, IdentityClause.toList_render, identityCharacters, nullCharacters, announced,
      ifSome]

/-- An identity clause can be told from none before what is said about nulls. -/
theorem legible_identityCharacters :
    Legible (fun _ => True) identityCharacters (fun r => ∃ rest, r = ' ' :: 'n' :: rest) := by
  apply (IdentityClause.legible_countingCharacters.optional_total " identity".toList).of_follows
  rintro _ ⟨rest, rfl⟩
  exact ⟨unopened_cons.2 rfl, not_prefix_of_second (by decide) _ _ _⟩

/-- Of the two texts about nulls neither is the beginning of the other. -/
theorem legible_nullCharacters : Legible (fun _ => True) nullCharacters (fun _ => True) := by
  rintro (_ | _) (_ | _) r s - - - - same
  · exact ⟨rfl, List.append_cancel_left same⟩
  · cases same
  · cases same
  · exact ⟨rfl, List.append_cancel_left same⟩

/-- A comment can be told from none where the declaration of the column ends. -/
theorem legible_comment : Legible (fun _ => True) (announced " comment ") Closed := by
  apply (legible_announced " comment ").of_follows
  rintro _ ⟨c, rest, rfl, rfl | rfl⟩
  · exact ⟨unopened_cons.2 rfl, not_prefix_of_head (by decide) _ _⟩
  · exact ⟨unopened_cons.2 rfl, not_prefix_of_head (by decide) _ _⟩

/-- What is said about nulls begins with a space and the same letter either way. -/
theorem nullCharacters_eq (nullable : Bool) :
    ∃ rest, nullCharacters nullable = ' ' :: 'n' :: rest := by
  cases nullable with
  | true => exact ⟨_, rfl⟩
  | false => exact ⟨_, rfl⟩

/-- What stands after the type of a column begins with another word than a collation. -/
theorem identityCharacters_append (identity : Option IdentityClause) {rest : List Char}
    (follows : ∃ more, rest = ' ' :: 'n' :: more) :
    ∃ c more, identityCharacters identity ++ rest = ' ' :: c :: more ∧ c ≠ 'c' := by
  obtain ⟨more, rfl⟩ := follows
  cases identity with
  | none => exact ⟨'n', more, rfl, by decide⟩
  | some clause => exact ⟨'i', _, rfl, by decide⟩

/-- A definition ends before a comma or the end of the list. -/
theorem legible_render : Legible Plain (fun definition => definition.render.toList) Closed := by
  have ending := legible_nullCharacters.pair legible_comment fun _ _ _ _ => trivial
  have middle := legible_identityCharacters.pair ending fun ending r _ _ => by
    obtain ⟨rest, text⟩ := nullCharacters_eq ending.1
    exact ⟨rest ++ announced " comment " ending.2 ++ r, by rw [text]; rfl⟩
  have whole := TypeSpelling.legible_render.pair middle fun middle r _ _ => by
    obtain ⟨rest, text⟩ := nullCharacters_eq middle.2.1
    rw [List.append_assoc]
    apply identityCharacters_append
    exact ⟨rest ++ announced " comment " middle.2.2 ++ r, by rw [text]; rfl⟩
  refine (whole.comap (f := fun definition : ColumnDefinition => (definition.spelling,
    definition.identity, definition.nullable, definition.comment)) ?_ ?_).congr
      fun definition plain => toList_render plain
  · exact fun definition plain => ⟨plain.fits, trivial, trivial, trivial⟩
  · intro definition other plain plain' same
    obtain ⟨spelling, identity, nullable, default, properties, comment⟩ := definition
    obtain ⟨-, rfl, rfl⟩ := plain
    obtain ⟨spelling', identity', nullable', default', properties', comment'⟩ := other
    obtain ⟨-, rfl, rfl⟩ := plain'
    cases same
    rfl

end ColumnDefinition

namespace Column

/-- A column is spelled with parameters that its type takes, whichever it declares. -/
theorem fits_spellingOf (column : Column) (type : DataType) : (column.spellingOf type).Fits := by
  constructor
  · cases type <;> simp [spellingOf]
  · cases type <;> simp [spellingOf, DataType.takesLimit]
  · cases type <;> simp [spellingOf, DataType.takesLimit, DataType.takesPrecision]

/-- A column without a default and without properties of its own has a plain definition. -/
theorem plain_definitionOf {column : Column} (undefaulted : column.default = none)
    (keyOnly : ∀ property ∈ column.properties, Keyword.isPrimaryKey property = true)
    (type : DataType) : (column.definitionOf type).Plain where
  fits := column.fits_spellingOf type
  default := by rw [definitionOf, defaultText, undefaulted]; rfl
  properties := by
    apply List.filter_eq_nil_iff.2
    intro property mem
    simp [keyOnly property mem]

end Column

end WarehouseSchema
