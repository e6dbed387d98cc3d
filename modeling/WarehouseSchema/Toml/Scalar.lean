import WarehouseSchema.Decimal.Binary64
import WarehouseSchema.Toml.Basic

/-!
# Numbers, truth values, dates and times in TOML

All of these are written as a word without quotes. Whole numbers may be signed decimals without a
leading zero, or unsigned numbers to another base; a single underscore may stand between two digits.
A number with a fraction or an exponent must not be so large that it would be infinite. A date and a
time may be joined by a `T` or a space; seconds may be left out.
-/

set_option autoImplicit false

namespace WarehouseSchema.Toml

/-- The value of a digit up to base sixteen. -/
def digitValue? (c : Char) : Option Nat :=
  if '0' ≤ c ∧ c ≤ '9' then some (c.toNat - 0x30)
  else if 'a' ≤ c ∧ c ≤ 'f' then some (c.toNat - 0x61 + 10)
  else if 'A' ≤ c ∧ c ≤ 'F' then some (c.toNat - 0x41 + 10)
  else none

/-- The digits of a number to a base without the underscores between them; there must be one, and
every underscore must have a digit on either side. -/
def digits? (base : Nat) : List Char → Option (List Nat)
  | [] => none
  | c :: rest =>
    match digitValue? c with
    | none => none
    | some d =>
      if base ≤ d then none
      else
        match rest with
        | [] => some [d]
        | '_' :: tail => (digits? base tail).map (d :: ·)
        | next :: tail => (digits? base (next :: tail)).map (d :: ·)

/-- The number that digits to a base stand for. -/
def ofDigits (base : Nat) (digits : List Nat) : Nat := digits.foldl (fun n d => n * base + d) 0

/-- The digits of a decimal number without a leading zero. -/
def wholeDigits? (text : List Char) : Option (List Nat) :=
  (digits? 10 text).filter fun digits => digits.length = 1 || digits.head? != some 0

/-- The sign before a word, minus being `true`, and what follows it. -/
def signed (text : List Char) : Bool × List Char :=
  match text with
  | '-' :: rest => (true, rest)
  | '+' :: rest => (false, rest)
  | _ => (false, text)

/-- The whole number that a word is. It must fit 128 bits, with a sign if it is negative. -/
def integer? (word : List Char) : Option Int :=
  let value : Option Int :=
    match word with
    | '0' :: 'x' :: rest => (digits? 16 rest).map fun digits => (ofDigits 16 digits : Int)
    | '0' :: 'o' :: rest => (digits? 8 rest).map fun digits => (ofDigits 8 digits : Int)
    | '0' :: 'b' :: rest => (digits? 2 rest).map fun digits => (ofDigits 2 digits : Int)
    | _ =>
      let (negative, rest) := signed word
      (wholeDigits? rest).map fun digits =>
        let n : Int := ofDigits 10 digits
        if negative then -n else n
  value.filter fun n => -(Decimal.twoTo 127) ≤ n ∧ n < Decimal.twoTo 128

/-- Whether a decimal number with this coefficient and power of ten rounds to a finite one. -/
def isFinite (coefficient : List Nat) (power : Int) : Bool :=
  let significant := coefficient.dropWhile (· == 0)
  let magnitude := (significant.length : Int) + power
  significant.isEmpty || magnitude ≤ 308 ||
    (magnitude ≤ 309 &&
      (Decimal.Binary64.ofRatio? (ofDigits 10 significant * Decimal.tenTo power.toNat)
        (Decimal.tenTo (-power).toNat)).isSome)

/-- Splits a word at the first character of a kind. -/
def splitAt? (kind : Char → Bool) (word : List Char) : Option (List Char × List Char) :=
  match word.dropWhile fun c => !kind c with
  | [] => none
  | _ :: rest => some (word.takeWhile fun c => !kind c, rest)

/-- The digits and the power of ten of a number with a fraction, an exponent or both. -/
def floatParts? (unsigned : List Char) : Option (List Nat × Int) :=
  let (mantissa, exponent) :=
    match splitAt? (fun c => c == 'e' || c == 'E') unsigned with
    | none => (unsigned, none)
    | some (mantissa, exponent) => (mantissa, some exponent)
  let power : Option Int :=
    match exponent with
    | none => some 0
    | some text =>
      let (negative, rest) := signed text
      (digits? 10 rest).map fun digits =>
        let n : Int := ofDigits 10 digits
        if negative then -n else n
  match splitAt? (· == '.') mantissa, exponent, power with
  | none, none, _ => none
  | none, some _, some power => (wholeDigits? mantissa).map (·, power)
  | some (whole, fraction), _, some power =>
    match wholeDigits? whole, digits? 10 fraction with
    | some w, some f => some (w ++ f, power - f.length)
    | _, _ => none
  | _, _, none => none

/-- Whether a word is a number with a fraction, an infinity or no number at all. -/
def isFloat (word : List Char) : Bool :=
  let unsigned := (signed word).2
  unsigned == ['i', 'n', 'f'] || unsigned == ['n', 'a', 'n'] ||
    match floatParts? unsigned with
    | some (coefficient, power) => isFinite coefficient power
    | none => false

/-- A decimal number of as many digits as given, and what follows it. -/
def fixedDigits? : Nat → List Char → Option (Nat × List Char)
  | 0, text => some (0, text)
  | count + 1, c :: rest =>
    if c.isDigit then
      (fixedDigits? count rest).map fun (n, after) =>
        ((c.toNat - 0x30) * Decimal.tenTo count + n, after)
    else none
  | _ + 1, [] => none

/-- Two digits of at most the given value, and what follows them. -/
def twoDigits? (least greatest : Nat) (text : List Char) : Option (List Char) :=
  (fixedDigits? 2 text).bind fun (n, rest) => if least ≤ n ∧ n ≤ greatest then some rest else none

/-- What follows a character at the beginning of a text. -/
def after? (c : Char) (text : List Char) : Option (List Char) :=
  match text with
  | head :: rest => if head = c then some rest else none
  | [] => none

/-- The number of days of a month. -/
def daysOf (year month : Nat) : Nat :=
  if month = 2 then
    if year % 4 = 0 ∧ (year % 100 ≠ 0 ∨ year % 400 = 0) then 29 else 28
  else if month = 4 ∨ month = 6 ∨ month = 9 ∨ month = 11 then 30
  else 31

/-- What follows a date at the beginning of a text. -/
def date? (text : List Char) : Option (List Char) := do
  let (year, rest) ← fixedDigits? 4 text
  let rest ← after? '-' rest
  let (month, rest) ← fixedDigits? 2 rest
  let rest ← after? '-' rest
  if 1 ≤ month ∧ month ≤ 12 then twoDigits? 1 (daysOf year month) rest else none

/-- What follows a time of day at the beginning of a text. -/
def time? (text : List Char) : Option (List Char) := do
  let rest ← twoDigits? 0 23 text
  let rest ← after? ':' rest
  let rest ← twoDigits? 0 59 rest
  match rest with
  | ':' :: seconds =>
    let rest ← twoDigits? 0 60 seconds
    match rest with
    | '.' :: fraction =>
      if (fraction.takeWhile Char.isDigit).isEmpty then none
      else some (fraction.dropWhile Char.isDigit)
    | _ => some rest
  | _ => some rest

/-- Whether a text is an offset from universal time, or empty. -/
def isOffset (text : List Char) : Bool :=
  match text with
  | [] | ['Z'] | ['z'] => true
  | '+' :: rest | '-' :: rest =>
    ((twoDigits? 0 23 rest).bind fun r => (after? ':' r).bind (twoDigits? 0 59)) == some []
  | _ => false

/-- Whether a word is a date, a time, or both joined. -/
def isDateTime (word : List Char) : Bool :=
  match date? word with
  | none => time? word == some []
  | some [] => true
  | some (joint :: rest) =>
    (joint == 'T' || joint == 't' || joint == ' ') && ((time? rest).map isOffset).getD false

/-- The value that a word without quotes is. -/
def scalar? (word : List Char) : Option Toml :=
  if word = ['t', 'r', 'u', 'e'] then some (.boolean true)
  else if word = ['f', 'a', 'l', 's', 'e'] then some (.boolean false)
  else
    match integer? word with
    | some n => some (.integer n)
    | none =>
      if isFloat word then some (.float (String.ofList word))
      else if isDateTime word then some (.dateTime (String.ofList word))
      else none

/-- Whether a character may stand in a word without quotes. -/
def isWordChar (c : Char) : Bool :=
  c.isAlphanum || c == '_' || c == '+' || c == '-' || c == '.' || c == ':'

/-- Whether a text continues a date with a space and a time. -/
def continuesWithTime (text : List Char) : Bool :=
  match text with
  | ' ' :: a :: b :: ':' :: _ => a.isDigit && b.isDigit
  | _ => false

/-- The word without quotes at the beginning of a text, with a time after a space if it is a date,
and what follows it. -/
def word (text : List Char) : List Char × List Char :=
  let head := text.takeWhile isWordChar
  let rest := text.dropWhile isWordChar
  if date? head = some [] ∧ continuesWithTime rest then
    let time := rest.drop 1
    (head ++ ' ' :: time.takeWhile isWordChar, time.dropWhile isWordChar)
  else (head, rest)

end WarehouseSchema.Toml
