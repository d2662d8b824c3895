import DocAtlas.Decimal.Nearest
import DocAtlas.Text.Cursor
import DocAtlas.Value

/-!
# Reading JSON

This module reads a JSON text. A refusal names one problem and the position, in
characters, that it is reported at. Numbers keep whether they were written as
integers, `NaN`, `Infinity` and `-Infinity` are accepted as numbers, and of two
fields of one name the last gives the value and the first the place. An integer
with too many digits is refused as well, though it is JSON.
-/

namespace DocAtlas.Json

open Text (Cursor)

/-- What a JSON text is refused for. -/
inductive Problem where
  | expectingValue
  | expectingName
  | expectingColon
  | expectingComma
  | extraData
  | unterminatedText
  | badEscape
  | badCodePoint
  | controlCharacter
  | byteOrderMark
  | tooManyDigits (count : Nat)
deriving DecidableEq, Repr

/-- The wording of a problem. -/
def Problem.message : Problem → String
  | expectingValue => "Expecting value"
  | expectingName => "Expecting property name enclosed in double quotes"
  | expectingColon => "Expecting ':' delimiter"
  | expectingComma => "Expecting ',' delimiter"
  | extraData => "Extra data"
  | unterminatedText => "Unterminated string starting at"
  | badEscape => "Invalid \\escape"
  | badCodePoint => "Invalid \\uXXXX escape"
  | controlCharacter => "Invalid control character at"
  | byteOrderMark => "Unexpected UTF-8 BOM (decode using utf-8-sig)"
  | tooManyDigits count => Decimal.tooManyDigits (some count)

/-- A problem and the position it is reported at. -/
structure Refusal where
  problem : Problem
  position : Nat
deriving DecidableEq, Repr

/-- A refusal at the place of a cursor. -/
def refuseAt {α : Type} (cursor : Cursor) (problem : Problem) : Except Refusal α :=
  .error ⟨problem, cursor.position⟩

/-- The characters that may stand between the parts of a JSON text. -/
def isBlank (c : Char) : Bool :=
  c == ' ' || c == '\t' || c == '\n' || c == '\r'

/-- Moves over the blanks that stand next. -/
def skipBlanks (cursor : Cursor) : Cursor :=
  cursor.skipWhile isBlank

/-- The value of a hexadecimal digit. -/
def hexValue? (c : Char) : Option Nat :=
  if '0' ≤ c ∧ c ≤ '9' then some (c.toNat - 48)
  else if 'a' ≤ c ∧ c ≤ 'f' then some (c.toNat - 87)
  else if 'A' ≤ c ∧ c ≤ 'F' then some (c.toNat - 55)
  else none

/-- The number that four hexadecimal digits stand for. -/
def hexValue4? (a b c d : Char) : Option Nat := do
  let a ← hexValue? a
  let b ← hexValue? b
  let c ← hexValue? c
  let d ← hexValue? d
  pure (((a * 16 + b) * 16 + c) * 16 + d)

/-- The character that a one-letter escape stands for. -/
def escaped? (c : Char) : Option Char :=
  match c.toNat with
  | 34 => some (Char.ofNat 34)
  | 92 => some (Char.ofNat 92)
  | 47 => some '/'
  | 98 => some (Char.ofNat 8)
  | 102 => some (Char.ofNat 12)
  | 110 => some '\n'
  | 114 => some '\r'
  | 116 => some '\t'
  | _ => none

/-- The character of a code unit that stands alone; a surrogate has none. -/
def unitChar (code : Nat) : Char :=
  if 0xD800 ≤ code ∧ code ≤ 0xDFFF then Char.ofNat 0xFFFD else Char.ofNat code

/-- The character that a high and a low surrogate stand for together. -/
def pairChar? (high low : Nat) : Option Char :=
  if 0xD800 ≤ high ∧ high ≤ 0xDBFF ∧ 0xDC00 ≤ low ∧ low ≤ 0xDFFF then
    some (Char.ofNat (0x10000 + (high - 0xD800) * 0x400 + (low - 0xDC00)))
  else none

/-- The code unit of an escape at the head of a text that follows its backslash: the
letter, four digits and at least one character behind them, with what is behind. -/
def unitEscape? : List Char → Option (Nat × List Char)
  | mark :: a :: b :: c :: d :: next :: rest =>
    if mark = 'u' then (hexValue4? a b c d).map fun code => (code, next :: rest) else none
  | _ => none

/-- The character that a unit stands for together with an escape that follows at once. -/
def pairedEscape? (unit : Nat) : List Char → Option Char
  | mark :: rest =>
    if mark.toNat = 92 then (unitEscape? rest).bind fun second => pairChar? unit second.1 else none
  | [] => none

/-- Reads the body of a text up to its closing quote. `opening` is the position
of the opening quote, `passing` how many characters an escape has already taken,
and `taken` what was read before, last character first. -/
def readText (opening : Nat) : (passing : Nat) → (taken : List Char) → (position : Nat) →
    List Char → Except Refusal (String × Cursor)
  | _, _, _, [] => .error ⟨.unterminatedText, opening⟩
  | passing + 1, taken, position, _ :: rest => readText opening passing taken (position + 1) rest
  | 0, taken, position, c :: rest =>
    if c.toNat = 34 then .ok (String.ofList taken.reverse, ⟨position + 1, rest⟩)
    else if c.toNat = 92 then
      match rest with
      | [] => .error ⟨.unterminatedText, opening⟩
      | mark :: _ =>
        if mark = 'u' then
          match unitEscape? rest with
          | none => .error ⟨.badCodePoint, position + 1⟩
          | some (unit, behind) =>
            match pairedEscape? unit behind with
            | some paired => readText opening 11 (paired :: taken) (position + 1) rest
            | none => readText opening 5 (unitChar unit :: taken) (position + 1) rest
        else
          match escaped? mark with
          | some replaced => readText opening 1 (replaced :: taken) (position + 1) rest
          | none => .error ⟨.badEscape, position⟩
    else if c.toNat < 32 then .error ⟨.controlCharacter, position⟩
    else readText opening 0 (c :: taken) (position + 1) rest

/-- Reads a text whose opening quote is next. -/
def readQuoted (cursor : Cursor) : Except Refusal (String × Cursor) :=
  readText cursor.position 0 [] (cursor.position + 1) (cursor.rest.drop 1)

/-- The parts of a number: sign, whole digits, fraction digits, and the exponent
with its sign, each as far as the text has it. -/
structure NumberParts where
  negative : Bool
  whole : List Char
  fraction : List Char
  exponent : Option (Bool × List Char)
  /-- How many characters the exponent takes. -/
  exponentSize : Nat

/-- How many characters a number takes. -/
def NumberParts.size (parts : NumberParts) : Nat :=
  (if parts.negative then 1 else 0) + parts.whole.length +
    (if parts.fraction.isEmpty then 0 else parts.fraction.length + 1) + parts.exponentSize

/-- Whether a number has neither a fraction nor an exponent. -/
def NumberParts.isInteger (parts : NumberParts) : Bool :=
  parts.fraction.isEmpty && parts.exponent.isNone

/-- The value of a number: a double when it has a fraction or an exponent. -/
def NumberParts.value (parts : NumberParts) : Value :=
  match parts.fraction, parts.exponent with
  | [], none =>
    let number : Int := Decimal.digitsValue parts.whole
    .int (if parts.negative then -number else number)
  | _, _ =>
    let power : Int := match parts.exponent with
      | some (true, digits) => -Decimal.digitsValue digits
      | some (false, digits) => Decimal.digitsValue digits
      | none => 0
    let x := Decimal.nearest (Decimal.digitsValue (parts.whole ++ parts.fraction))
      (power - parts.fraction.length)
    .float (if parts.negative then -x else x)

/-- The digits at the head of a text. -/
def leadingDigits (chars : List Char) : List Char :=
  chars.takeWhile Char.isDigit

/-- The whole digits at the head of a text: a zero, or digits that start otherwise. -/
def wholeDigits : List Char → List Char
  | '0' :: _ => ['0']
  | chars => leadingDigits chars

/-- The fraction digits at the head of a text, behind their point. -/
def fractionDigits : List Char → List Char
  | '.' :: rest => leadingDigits rest
  | _ => []

/-- The exponent at the head of a text, with its size. -/
def exponentDigits? : List Char → Option ((Bool × List Char) × Nat)
  | mark :: rest =>
    if mark = 'e' ∨ mark = 'E' then
      let (negative, digits, signs) := match rest with
        | '-' :: behind => (true, leadingDigits behind, 1)
        | '+' :: behind => (false, leadingDigits behind, 1)
        | _ => (false, leadingDigits rest, 0)
      if digits.isEmpty then none else some ((negative, digits), 1 + signs + digits.length)
    else none
  | [] => none

/-- The number at the head of a text. -/
def numberParts? (chars : List Char) : Option NumberParts :=
  let negative := chars.head? == some '-'
  let unsigned := if negative then chars.drop 1 else chars
  let whole := wholeDigits unsigned
  if whole.isEmpty then none
  else
    let fraction := fractionDigits (unsigned.drop whole.length)
    let behind := unsigned.drop
      (whole.length + if fraction.isEmpty then 0 else fraction.length + 1)
    match exponentDigits? behind with
    | some (exponent, size) => some ⟨negative, whole, fraction, some exponent, size⟩
    | none => some ⟨negative, whole, fraction, none, 0⟩

/-- The words that stand for values. -/
def words : List (List Char × Value) :=
  [("null".toList, .null), ("true".toList, .bool true), ("false".toList, .bool false),
    ("NaN".toList, .float (0 / 0)), ("Infinity".toList, .float (1 / 0)),
    ("-Infinity".toList, .float (-1 / 0))]

/-- Reads a word or a number. -/
def readScalar (cursor : Cursor) : Except Refusal (Value × Cursor) :=
  match words.find? fun word => word.1.isPrefixOf cursor.rest with
  | some word => .ok (word.2, cursor.skip word.1.length)
  | none =>
    match numberParts? cursor.rest with
    | some parts =>
      if parts.isInteger && Decimal.digitLimit < parts.whole.length then
        refuseAt cursor (.tooManyDigits parts.whole.length)
      else .ok (parts.value, cursor.skip parts.size)
    | none => refuseAt cursor .expectingValue

mutual

/-- Reads a value that is next. Every nested call takes one from the allowance. -/
def readValue : (allowance : Nat) → Cursor → Except Refusal (Value × Cursor)
  | 0, cursor => refuseAt cursor .expectingValue
  | allowance + 1, cursor =>
    match cursor.rest with
    | '[' :: _ =>
      let inner := skipBlanks (cursor.skip 1)
      match inner.rest with
      | ']' :: _ => .ok (.list [], inner.skip 1)
      | _ => readItems allowance [] inner
    | '\x7b' :: _ =>
      let inner := skipBlanks (cursor.skip 1)
      match inner.rest with
      | '\x7d' :: _ => .ok (.record [], inner.skip 1)
      | _ => readFields allowance [] inner
    | c :: _ =>
      if c.toNat = 34 then
        match readQuoted cursor with
        | .ok (content, behind) => .ok (.text content, behind)
        | .error refusal => .error refusal
      else readScalar cursor
    | [] => refuseAt cursor .expectingValue

/-- Reads the items of a list from one that is next; `taken` are those before, the
last first. -/
def readItems : (allowance : Nat) → (taken : List Value) → Cursor →
    Except Refusal (Value × Cursor)
  | 0, _, cursor => refuseAt cursor .expectingValue
  | allowance + 1, taken, cursor =>
    match readValue allowance cursor with
    | .error refusal => .error refusal
    | .ok (item, behind) =>
      let next := skipBlanks behind
      match next.rest with
      | ']' :: _ => .ok (.list (item :: taken).reverse, next.skip 1)
      | ',' :: _ => readItems allowance (item :: taken) (skipBlanks (next.skip 1))
      | _ => refuseAt next .expectingComma

/-- Reads the fields of a record from one that is next; `taken` are those before. -/
def readFields : (allowance : Nat) → (taken : List (String × Value)) → Cursor →
    Except Refusal (Value × Cursor)
  | 0, _, cursor => refuseAt cursor .expectingValue
  | allowance + 1, taken, cursor =>
    match cursor.rest.head? with
    | none => refuseAt cursor .expectingName
    | some c =>
      if c.toNat ≠ 34 then refuseAt cursor .expectingName
      else
        match readQuoted cursor with
        | .error refusal => .error refusal
        | .ok (name, behindName) =>
          let colon := skipBlanks behindName
          match colon.rest with
          | ':' :: _ =>
            match readValue allowance (skipBlanks (colon.skip 1)) with
            | .error refusal => .error refusal
            | .ok (value, behind) =>
              let fields := Value.setField name value taken
              let next := skipBlanks behind
              match next.rest with
              | '\x7d' :: _ => .ok (.record fields, next.skip 1)
              | ',' :: _ => readFields allowance fields (skipBlanks (next.skip 1))
              | _ => refuseAt next .expectingComma
          | _ => refuseAt colon .expectingColon

end

/-- Reads a whole JSON text. -/
def readChars (chars : List Char) : Except Refusal Value :=
  if chars.head? = some (Char.ofNat 0xFEFF) then .error ⟨.byteOrderMark, 0⟩
  else
    match readValue (2 * chars.length + 2) (skipBlanks (Cursor.start chars)) with
    | .error refusal => .error refusal
    | .ok (value, behind) =>
      let last := skipBlanks behind
      if last.rest.isEmpty then .ok value else refuseAt last .extraData

/-- Reads a whole JSON text. -/
def read (source : String) : Except Refusal Value :=
  readChars source.toList

/-- The text of a refusal, with the line and the column of its position. -/
def Refusal.message (refusal : Refusal) (source : String) : String :=
  let (line, column) := Text.coordinates source.toList refusal.position
  refusal.problem.message ++ ": line " ++ toString line ++ " column " ++ toString column ++
    " (char " ++ toString refusal.position ++ ")"

end DocAtlas.Json
