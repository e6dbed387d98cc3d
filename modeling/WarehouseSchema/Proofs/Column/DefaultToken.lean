import WarehouseSchema.Proofs.Column.Literal
import WarehouseSchema.Proofs.Column.Spelled

/-!
# A literal default is one token

A default stands in the middle of a column definition, and a literal may be any value: a string with
quotes in it, or with the words of further clauses. Cut into tokens, the definition has two more for
the default, the word that announces it and one for the value.

## What is proved

`literal_default_is_one_token`: that is so for every literal that calls no function, where its type
does not write literals bare. Where the type does, it is so for null, truth values and numbers; a
string is written as it is there, and an array or an object as its compact text.

`bare_default_is_another_clause` is a string default of a number that is not one token.
-/

set_option autoImplicit false

namespace WarehouseSchema

open Text
open Statement (Token)
open Statement.Token (Reads Parted)

/-! ## The tokens before a default -/

namespace IdentityClause

/-- An identity clause is read as tokens of its own. -/
theorem reads_render (clause : IdentityClause) :
    ∃ tokens, Reads clause.render.toList tokens := by
  have word : Reads "identity".toList [.word "identity"] := .word (by decide) (by decide)
  cases clause with
  | bare => exact ⟨_, word⟩
  | counting seed increment =>
    have number (n : Int64) : Reads (integerText n.toInt).toList [.word (integerText n.toInt)] :=
      .numeric (JsonText.integerText_ne_nil _) (.integerText _)
    have characters : (counting seed increment).render.toList = "identity".toList ++
        '(' :: ((integerText seed.toInt).toList ++
          ',' :: ((integerText increment.toInt).toList ++ [')'])) := by
      simp [render]
    rw [characters]
    have second := (number increment).append (Token.parted_cons rfl _) (.mark (c := ')') rfl .nil)
    have first := (number seed).append (Token.parted_cons rfl _) (second.mark (c := ',') rfl)
    exact ⟨_, word.append (Token.parted_cons rfl _) (first.mark rfl)⟩

end IdentityClause

namespace ColumnDefinition

/-- What a definition says before its default. -/
def opening (definition : ColumnDefinition) : List Char :=
  definition.spelling.render.toList ++
    (ifSome (fun clause => ' ' :: clause.render.toList) definition.identity ++
      nullCharacters definition.nullable)

/-- What a definition says after its default. -/
def ending (definition : ColumnDefinition) : List Char :=
  (String.join (definition.properties.map (" " ++ ·))).toList ++
    announced " comment " definition.comment

/-- A definition is what stands before its default, the default, and what stands after it. -/
theorem toList_render_eq (definition : ColumnDefinition) :
    definition.render.toList = definition.opening ++
      (ifSome (fun text => " default ".toList ++ text.toList) definition.default ++
        definition.ending) := by
  obtain ⟨spelling, identity, nullable, default, properties, comment⟩ := definition
  cases identity <;> cases default <;> cases comment <;>
    simp [render, opening, ending, nullCharacters, announced, ifSome]

/-- What stands after a default begins with a space, if there is anything. -/
theorem parted_ending (definition : ColumnDefinition) : Parted definition.ending := by
  have comment : Parted (announced " comment " definition.comment) :=
    unopened_ifSome (fun _ => Token.parted_cons rfl _) _
  have properties : Parted (String.join (definition.properties.map (" " ++ ·))).toList := by
    cases definition.properties with
    | nil => exact unopened_nil _
    | cons property rest =>
      have characters : (String.join ((property :: rest).map (" " ++ ·))).toList =
          ' ' :: (property.toList ++ (String.join (rest.map (" " ++ ·))).toList) := by
        simp
      rw [characters]
      exact Token.parted_cons rfl _
  exact properties.append comment

theorem reads_nullCharacters (nullable : Bool) :
    ∃ tokens, Reads (nullCharacters nullable) tokens := by
  have null : Reads "null".toList [.word "null"] := .word (by decide) (by decide)
  have not : Reads "not".toList [.word "not"] := .word (by decide) (by decide)
  cases nullable with
  | true => exact ⟨_, null.space⟩
  | false => exact ⟨_, (not.spaced null).space⟩

/-- What stands before a default is read as tokens of its own, whatever the default is. -/
theorem reads_opening {definition : ColumnDefinition} (fits : definition.spelling.Fits) :
    ∃ tokens, Reads definition.opening tokens := by
  obtain ⟨nulls, nullable⟩ := reads_nullCharacters definition.nullable
  have parted : Parted (nullCharacters definition.nullable) := by
    obtain ⟨rest, characters⟩ := nullCharacters_eq definition.nullable
    rw [characters]
    exact Token.parted_cons rfl _
  have spelling := TypeSpelling.reads_render fits
  unfold opening
  cases definition.identity with
  | none => exact ⟨_, spelling.append parted nullable⟩
  | some clause =>
    obtain ⟨counted, identity⟩ := clause.reads_render
    exact ⟨_, spelling.append (Token.parted_cons rfl _) (identity.space.append parted nullable)⟩

end ColumnDefinition

/-! ## Defaults that are one token -/

/-- The ways to write a default as one token, each with the token. -/
inductive DefaultToken : String → Token → Prop where
  | null : DefaultToken "null" (.word "null")
  | truth (b : Bool) : DefaultToken (Keyword.ofBool b) (.word (Keyword.ofBool b))
  | number (n : JsonNumber) :
      DefaultToken (Json.number n).compact (.word (Json.number n).compact)
  | quoted (text : String) : DefaultToken (Quoted.literal text) (.literal text)

/-- A default that is one token is read as it, whatever follows behind a border. -/
theorem DefaultToken.reads {text : String} {token : Token} (one : DefaultToken text token) :
    Reads text.toList [token] := by
  cases one with
  | null => exact .word (by decide) (by decide)
  | truth b => cases b <;> exact .word (by decide) (by decide)
  | number n => exact .number n
  | quoted text => exact .literal text

/-- A default that is one token is not empty. -/
theorem DefaultToken.ne_empty {text : String} {token : Token} (one : DefaultToken text token) :
    text ≠ "" := by
  rintro rfl
  cases Token.scan_nil.symm.trans one.reads.scan_eq

/-- Whether a value is written as one word. -/
def Json.isWord : Json → Bool
  | .null | .bool _ | .number _ => true
  | _ => false

/-- Where literals are not bare, every value that is no call is one token. -/
theorem exists_defaultToken {type : DataType} (notBare : type.family.hasBareLiterals = false)
    {value : Json} (noCall : ∀ text, value = .string text → Keyword.isFunctionCall text = false) :
    ∃ token, DefaultToken ((ColumnDefault.literal value).render type) token := by
  rcases type.render_literal_cases value with null | ⟨b, -, truth⟩ | ⟨text, call, string⟩
  · rw [null]
    exact ⟨_, .null⟩
  · rw [truth]
    exact ⟨_, .truth b⟩
  · have other : Keyword.isFunctionCall text = false := by
      refine Bool.eq_false_iff.2 fun calls => ?_
      have same := noCall text (call calls)
      rw [calls] at same
      cases same
    rw [string]
    rcases DataType.literalText_string_cases notBare other with
      ⟨b, -, -, truth⟩ | ⟨-, quoted⟩
    · rw [truth]
      exact ⟨_, .truth b⟩
    · rw [quoted]
      exact ⟨_, .quoted text⟩

/-- Where they are bare, a value is one token if it is a word. -/
theorem exists_defaultToken_of_isWord {value : Json} (word : value.isWord = true) :
    ∃ token, DefaultToken value.bareText token := by
  cases value with
  | null => exact ⟨_, .null⟩
  | bool b =>
    cases b with
    | true => exact ⟨_, .truth true⟩
    | false => exact ⟨_, .truth false⟩
  | number n => exact ⟨_, .number n⟩
  | string text => cases word
  | array items => cases word
  | object members => cases word

/-- A value is one token as the default of a column. The definition of any column has two tokens
more with the default than without: the word that announces it, and the token of the value. -/
structure StandsAsToken (type : DataType) (value : Json) (token : Token) : Prop where
  written : DefaultToken ((ColumnDefault.literal value).render type) token
  present : (ColumnDefault.literal value).render type ≠ ""
  inserted : ∀ column : Column, ∃ before : List Token,
    let without := { column with default := none }.definitionOf type
    let given := (column.withDefault (.literal value)).definitionOf type
    Token.scan without.render.toList = (Token.scan given.ending).map (before ++ ·) ∧
      Token.scan given.render.toList =
        (Token.scan given.ending).map (before ++ .word "default" :: token :: ·)

/-- A literal that is written as one token stands as one in every definition. -/
theorem DefaultToken.standsAsToken {type : DataType} {value : Json} {token : Token}
    (one : DefaultToken ((ColumnDefault.literal value).render type) token) :
    StandsAsToken type value token where
  written := one
  present := one.ne_empty
  inserted column := by
    let without := { column with default := none }.definitionOf type
    let given := (column.withDefault (.literal value)).definitionOf type
    have fits : without.spelling.Fits := Column.fits_spellingOf _ type
    obtain ⟨before, reads⟩ := ColumnDefinition.reads_opening fits
    -- The two definitions differ by the default alone, so they share their opening and ending.
    have ends : Parted given.ending := given.parted_ending
    have withoutText : without.render.toList = without.opening ++ given.ending :=
      without.toList_render_eq
    have givenText : given.render.toList = without.opening ++
        ' ' :: ("default".toList ++ ' ' :: ((ColumnDefault.literal value).render type).toList) ++
          given.ending := by
      rw [List.append_assoc]
      exact given.toList_render_eq
    have announced : Reads "default".toList [.word "default"] := .word (by decide) (by decide)
    have both := reads.append (Token.parted_cons rfl _) (announced.spaced one.reads).space
    refine ⟨before, ?_, ?_⟩
    · rw [withoutText]
      exact reads ends
    · rw [givenText, both ends]
      simp only [List.append_assoc]
      rfl

/-- Every literal that calls no function is one token, where its type does not write literals bare.
Where it does, the literal is the bare text of its value, and one token where that is a word. -/
theorem literal_default_is_one_token (type : DataType) (value : Json)
    (noCall : ∀ text, value = .string text → Keyword.isFunctionCall text = false) :
    ((type ≠ .number ∧ type ≠ .float) ∨ value.isWord = true →
      ∃ token, StandsAsToken type value token) ∧
    (type = .number ∨ type = .float →
      (ColumnDefault.literal value).render type = value.bareText) := by
  have bare_iff : type.family.hasBareLiterals = true ↔ type = .number ∨ type = .float := by
    cases type <;> decide
  rw [← bare_iff]
  refine ⟨?_, fun bare => DataType.render_literal_of_bare bare value⟩
  intro allowed
  cases bare : type.family.hasBareLiterals with
  | false =>
    obtain ⟨token, one⟩ := exists_defaultToken bare noCall
    exact ⟨token, one.standsAsToken⟩
  | true =>
    have word : value.isWord = true := by
      rcases allowed with others | word
      · exact absurd (bare_iff.1 bare) (by simpa using others)
      · exact word
    obtain ⟨token, one⟩ := exists_defaultToken_of_isWord word
    rw [← DataType.render_literal_of_bare bare value] at one
    exact ⟨token, one.standsAsToken⟩

/-- A string with the quotes and the words of a further clause. -/
theorem literal_default_is_one_token_at_quotes :
    let value := Json.string "new' unique comment '"
    (∀ text, value = .string text → Keyword.isFunctionCall text = false) ∧
      (ColumnDefault.literal value).render .varchar = "'new'' unique comment '''" ∧
      StandsAsToken .varchar value (.literal "new' unique comment '") := by
  intro value
  have noCall : ∀ text, value = .string text → Keyword.isFunctionCall text = false := by
    intro text same
    rw [← Json.string.inj same]
    decide +kernel
  have written : (ColumnDefault.literal value).render .varchar =
      Quoted.literal "new' unique comment '" := by
    decide +kernel
  obtain ⟨token, stands⟩ := (literal_default_is_one_token .varchar value noCall).1
    (.inl ⟨by decide, by decide⟩)
  have read := stands.written.reads.scan_eq
  rw [written, (Reads.literal _).scan_eq] at read
  cases read
  exact ⟨noCall, by decide +kernel, stands⟩

/-- A number is given a string as its default that is written as it is and reads as a value and a
further property of the column; the empty string leaves no value at all. -/
theorem bare_default_is_another_clause :
    let column := (Column.declare "total" "number").withDefault (.literal (.string "0 unique"))
    (∀ text ∈ ["0 unique", ""], Keyword.isFunctionCall text = false ∧
      (ColumnDefault.literal (.string text)).render .number = text ∧
      ¬ ∃ token, DefaultToken text token) ∧
    (column.definitionOf .number).render = "number null default 0 unique" := by
  have unread : ∀ text ∈ ["0 unique", ""], ¬ ∃ token, DefaultToken text token := by
    rintro text among ⟨token, one⟩
    rcases List.mem_cons.1 among with rfl | among
    · have value : Reads "0".toList [.word "0"] := .word (by decide) (by decide)
      have property : Reads "unique".toList [.word "unique"] := .word (by decide) (by decide)
      cases (value.spaced property).scan_eq.symm.trans one.reads.scan_eq
    · exact one.ne_empty (List.mem_singleton.1 among)
  have bare : ∀ text ∈ ["0 unique", ""], Keyword.isFunctionCall text = false ∧
      (ColumnDefault.literal (.string text)).render .number = text := by
    decide +kernel
  refine ⟨fun text among => ?_, by decide +kernel⟩
  exact ⟨(bare text among).1, (bare text among).2, unread text among⟩

end WarehouseSchema
