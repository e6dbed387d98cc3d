import WarehouseSchema.Toml.Scalar
import WarehouseSchema.Toml.Strings
import WarehouseSchema.Toml.Tables

/-!
# The text of a TOML document

A document is a list of lines: headers, which open a table, and entries, which put a value under a
key. Blanks, line breaks and comments separate them; a header or an entry must end its line. Arrays
and inline tables may go over several lines, with a line break or a comment wherever a blank may
stand but inside a key, and may have a comma after their last part. They may be nested up to eighty
deep. A key may have up to eighty parts, wherever it stands.

A reader of nested values is given as many steps as the text has characters, twice over, which is
more than it takes.
-/

set_option autoImplicit false

namespace WarehouseSchema.Toml

/-- How deep arrays and inline tables may be nested. -/
def nestingLimit : Nat := 80

/-- How many parts a key may have. -/
def keyLimit : Nat := 80

/-- What remains after spaces and tabs. -/
def skipBlanks (text : List Char) : List Char := text.dropWhile fun c => c == ' ' || c == '\t'

/-- What remains after the rest of a comment, at the line break or at the end. -/
def skipComment : List Char → Option (List Char)
  | [] => some []
  | c :: rest =>
    if c = '\n' ∨ (c = '\r' ∧ rest.head? = some '\n') then some (c :: rest)
    else if isPlain c then skipComment rest
    else none

theorem length_of_skipComment {text after : List Char} (h : skipComment text = some after) :
    after.length ≤ text.length := by
  induction text with
  | nil => simp [skipComment] at h; simp [h]
  | cons c rest ih =>
    simp only [skipComment] at h
    split at h
    · simp at h; simp [← h]
    · split at h
      · have := ih h; simp only [List.length_cons]; omega
      · simp at h

/-- What remains after blanks, line breaks and comments. -/
def skipSeparation (text : List Char) : Option (List Char) :=
  match text with
  | [] => some []
  | c :: rest =>
    if c = ' ' ∨ c = '\t' ∨ c = '\n' then skipSeparation rest
    else if c = '\r' ∧ rest.head? = some '\n' then skipSeparation rest
    else if c = '#' then
      match _h : skipComment rest with
      | none => none
      | some after => skipSeparation after
    else some (c :: rest)
termination_by text.length
decreasing_by
  · simp
  · simp
  · have := length_of_skipComment ‹_›
    simp only [List.length_cons]; omega

/-- What remains after the end of a line: blanks, a comment, and a line break or the end. -/
def endOfLine? (text : List Char) : Option (List Char) :=
  let rest := skipBlanks text
  let rest := match rest with
    | '#' :: comment => skipComment comment
    | _ => some rest
  match rest with
  | some [] => some []
  | some ('\n' :: after) => some after
  | some ('\r' :: '\n' :: after) => some after
  | _ => none

/-- Whether a character may stand in a key without quotes. -/
def isKeyChar (c : Char) : Bool := c.isAlphanum || c == '_' || c == '-'

/-- One part of a key, and what follows it. -/
def keyPart? (text : List Char) : Option (String × List Char) :=
  let bare := text.takeWhile isKeyChar
  if !bare.isEmpty then some (String.ofList bare, text.dropWhile isKeyChar)
  else
    match text with
    | '"' :: rest => (basic rest).map fun (cs, after) => (String.ofList cs, after)
    | '\'' :: rest => (literal rest).map fun (cs, after) => (String.ofList cs, after)
    | _ => none

/-- A key with the keys that lead to it. -/
structure KeyPath where
  path : List String
  key : String

/-- The parts of a key with dots between them, of which there may be as many as given, and what
follows them. -/
def keyParts? : Nat → List Char → Option (KeyPath × List Char)
  | 0, _ => none
  | most + 1, text =>
    match keyPart? text with
    | none => none
    | some (part, rest) =>
      match skipBlanks rest with
      | '.' :: more =>
        (keyParts? most (skipBlanks more)).map fun (next, after) =>
          (⟨part :: next.path, next.key⟩, after)
      | rest => some (⟨[], part⟩, rest)

/-- A key with the keys that lead to it, and what follows it. -/
def keyPath? (text : List Char) : Option (KeyPath × List Char) := keyParts? keyLimit text

/-- The key of an entry of an inline table, and the value that follows the equals sign. Line breaks
and comments may stand on either side of that sign. -/
def pairKey? (text : List Char) : Option (KeyPath × List Char) :=
  (keyPath? text).bind fun (path, rest) =>
    match skipSeparation rest with
    | some ('=' :: value) => (skipSeparation value).map (path, ·)
    | _ => none

mutual

/-- A value at the beginning of a text, and what follows it. -/
def value? (steps depth : Nat) (text : List Char) : Option (Toml × List Char) :=
  match steps with
  | 0 => none
  | steps + 1 =>
    match string? text with
    | some result => result.map fun (cs, after) => (.string (String.ofList cs), after)
    | none =>
      match text with
      | '[' :: rest =>
        if depth = 0 then none
        else (items? steps (depth - 1) rest).map fun (items, after) => (.array items, after)
      | '\x7b' :: rest =>
        if depth = 0 then none
        else (pairs? steps (depth - 1) [] rest).map fun (entries, after) =>
          (.table .inline entries, after)
      | _ =>
        let (spelled, after) := word text
        (scalar? spelled).map (·, after)

/-- The items of an array up to its closing bracket, and what follows that. -/
def items? (steps depth : Nat) (text : List Char) : Option (List Toml × List Char) :=
  match steps with
  | 0 => none
  | steps + 1 =>
    match skipSeparation text with
    | none => none
    | some (']' :: after) => some ([], after)
    | some rest =>
      match value? steps depth rest with
      | none => none
      | some (item, rest) =>
        match skipSeparation rest with
        | some (']' :: after) => some ([item], after)
        | some (',' :: rest) =>
          (items? steps depth rest).map fun (items, after) => (item :: items, after)
        | _ => none

/-- The entries of an inline table up to its closing brace, added to those before them, and what
follows that. -/
def pairs? (steps depth : Nat) (entries : List (String × Toml)) (text : List Char) :
    Option (List (String × Toml) × List Char) :=
  match steps with
  | 0 => none
  | steps + 1 =>
    match skipSeparation text with
    | none => none
    | some ('\x7d' :: after) => some (entries, after)
    | some rest =>
      match pairKey? rest with
      | none => none
      | some (path, rest) =>
        match value? steps depth rest with
        | none => none
        | some (value, rest) =>
          match addEntry .inline entries path.path path.key value, skipSeparation rest with
          | some entries, some ('\x7d' :: after) => some (entries, after)
          | some entries, some (',' :: rest) => pairs? steps depth entries rest
          | _, _ => none

end

/-- A line of a document. -/
inductive Line where
  | header (path : KeyPath)
  | listHeader (path : KeyPath)
  | entry (path : KeyPath) (value : Toml)

/-- A header after its opening bracket up to its closing one, and what follows that. -/
def header? (text : List Char) : Option (Line × List Char) :=
  match text with
  | '[' :: rest =>
    match keyPath? (skipBlanks rest) with
    | some (path, ']' :: ']' :: after) => some (.listHeader path, after)
    | _ => none
  | _ =>
    match keyPath? (skipBlanks text) with
    | some (path, ']' :: after) => some (.header path, after)
    | _ => none

/-- A line that is no blank and no comment, without its end, and what follows it. -/
def line? (text : List Char) : Option (Line × List Char) :=
  match text with
  | '[' :: rest => header? rest
  | _ =>
    match keyPath? text with
    | some (path, '=' :: rest) =>
      (value? (2 * text.length) nestingLimit (skipBlanks rest)).map fun (value, after) =>
        (.entry path value, after)
    | _ => none

/-- The lines of a text. Each takes a step. -/
def lines? : Nat → List Char → Option (List Line)
  | 0, _ => none
  | steps + 1, text =>
    match skipSeparation text with
    | none => none
    | some [] => some []
    | some rest =>
      match line? rest with
      | none => none
      | some (line, rest) => (endOfLine? rest).bind fun rest => (lines? steps rest).map (line :: ·)

/-- A text without the mark of its byte order. -/
def withoutMark (text : List Char) : List Char :=
  match text with
  | c :: rest => if c.toNat = 0xFEFF then rest else text
  | [] => []

/-- Takes in a line of a document. -/
def addLine (document : PartialDocument) : Line → Option PartialDocument
  | .header path => document.openTable path.path path.key
  | .listHeader path => document.openListedTable path.path path.key
  | .entry path value => document.addEntry path.path path.key value

/-- The table that a document is. -/
def parse? (text : String) : Option Toml :=
  (lines? (text.length + 1) (withoutMark text.toList)).bind fun lines =>
    (lines.foldlM addLine .empty).bind PartialDocument.close

end WarehouseSchema.Toml
