import DocAtlas.Decimal.Nearest
import DocAtlas.Toml.Problem
import DocAtlas.Value

/-!
# Scalars of TOML

This module reads numbers, dates and times. A date with a time behind it is one
moment; a date that the calendar does not have is refused, and so is a decimal
integer with too many digits.
-/

namespace DocAtlas.Toml

open Text (Cursor)

/-- Digits of a class as far as they go, the underscores that stand between two of
them kept; `behindDigit` says that a digit stands right before. -/
def digitsAfter (isDigit : Char → Bool) : (behindDigit : Bool) → List Char → List Char
  | _, [] => []
  | behindDigit, c :: rest =>
    if isDigit c then c :: digitsAfter isDigit true rest
    else if behindDigit && c == '_' && rest.head?.any isDigit then
      c :: digitsAfter isDigit false rest
    else []

/-- Digits of a class with at most one underscore between neighbours, as far as
they go. -/
def digitRun (isDigit : Char → Bool) (chars : List Char) : List Char :=
  digitsAfter isDigit false chars

/-- The number that digits of a base stand for, underscores left out. -/
def baseValue (base : Nat) (digits : List Char) : Nat :=
  digits.foldl (fun value c =>
    if c = '_' then value
    else
      let digit :=
        if c.isDigit then c.toNat - 48
        else if 97 ≤ c.toNat then c.toNat - 87
        else c.toNat - 55
      value * base + digit) 0

/-- Whether a character is a hexadecimal digit. -/
def isHexDigit (c : Char) : Bool :=
  c.isDigit || ('a' ≤ c && c ≤ 'f') || ('A' ≤ c && c ≤ 'F')

/-- A number with a base mark at the head of a text, and its length. -/
def basedNumber? : List Char → Option (Value × Nat)
  | '0' :: mark :: rest =>
    let read (base : Nat) (isDigit : Char → Bool) : Option (Value × Nat) :=
      let digits := digitRun isDigit rest
      if digits.isEmpty then none else some (.int (baseValue base digits), digits.length + 2)
    if mark = 'x' then read 16 isHexDigit
    else if mark = 'b' then read 2 fun c => c = '0' || c = '1'
    else if mark = 'o' then read 8 fun c => '0' ≤ c && c ≤ '7'
    else none
  | _ => none

/-- The sign at the head of a text. -/
def signOf : List Char → List Char
  | '+' :: _ => ['+']
  | '-' :: _ => ['-']
  | _ => []

/-- The fraction at the head of a text, with its point. -/
def fractionOf : List Char → List Char
  | '.' :: rest =>
    match digitRun Char.isDigit rest with
    | [] => []
    | digits => '.' :: digits
  | _ => []

/-- The exponent at the head of a text, with its mark and its sign. -/
def exponentOf : List Char → List Char
  | mark :: rest =>
    if mark = 'e' ∨ mark = 'E' then
      let sign := signOf rest
      match digitRun Char.isDigit (rest.drop sign.length) with
      | [] => []
      | digits => mark :: sign ++ digits
    else []
  | [] => []

/-- A decimal number at the head of a text, and its length. -/
def decimalNumber? (chars : List Char) : Option (Value × Nat) :=
  let sign := signOf chars
  let unsigned := chars.drop sign.length
  let whole := match unsigned with
    | '0' :: _ => ['0']
    | _ => digitRun Char.isDigit unsigned
  if whole.isEmpty then none
  else
    let behind := unsigned.drop whole.length
    let fraction := fractionOf behind
    let exponent := exponentOf (behind.drop fraction.length)
    let size := sign.length + whole.length + fraction.length + exponent.length
    let negative := sign = ['-']
    if fraction.isEmpty ∧ exponent.isEmpty then
      let number : Int := baseValue 10 whole
      some (.int (if negative then -number else number), size)
    else
      let fractionDigits := (fraction.drop 1).filter (· ≠ '_')
      let exponentSign := signOf (exponent.drop 1)
      let magnitude : Int := baseValue 10 (exponent.drop (1 + exponentSign.length))
      let power := if exponentSign = ['-'] then -magnitude else magnitude
      let digits := baseValue 10 (whole ++ fractionDigits)
      let x := Decimal.nearest digits (power - fractionDigits.length)
      some (.float (if negative then -x else x), size)

/-- How many digits a decimal integer at the head of a text has, when they are too
many to be read. Integers with a base mark and doubles have no limit. -/
def excessDigits? (chars : List Char) : Option Nat :=
  match basedNumber? chars, decimalNumber? chars with
  | none, some (.int _, size) =>
    let count := (chars.take size).countP Char.isDigit
    if Decimal.digitLimit < count then some count else none
  | _, _ => none

/-- The words for special doubles. -/
def specialFloats : List (String × Float) :=
  [("inf", 1 / 0), ("nan", 0 / 0), ("+inf", 1 / 0), ("-inf", -1 / 0), ("+nan", 0 / 0),
    ("-nan", 0 / 0)]

/-- Two digits at the head of a text as a number, if it lies in a range. -/
def twoDigits? (least greatest : Nat) : List Char → Option Nat
  | a :: b :: _ =>
    if a.isDigit && b.isDigit then
      let value := (a.toNat - 48) * 10 + (b.toNat - 48)
      if least ≤ value ∧ value ≤ greatest then some value else none
    else none
  | _ => none

/-- The time of day at the head of a text, and its length. Of its fraction six digits
count. -/
def clock? (chars : List Char) : Option (Clock × Nat) := do
  let hour ← twoDigits? 0 23 chars
  guard (chars[2]? = some ':')
  let minute ← twoDigits? 0 59 (chars.drop 3)
  guard (chars[5]? = some ':')
  let second ← twoDigits? 0 59 (chars.drop 6)
  let fraction := match chars.drop 8 with
    | '.' :: rest => rest.takeWhile Char.isDigit
    | _ => []
  let micros := Decimal.digitsValue
    (fraction.take 6 ++ List.replicate (6 - fraction.length) '0')
  pure (⟨hour, minute, second, micros⟩,
    8 + if fraction.isEmpty then 0 else fraction.length + 1)

/-- The minutes ahead of universal time at the head of a text, and its length. -/
def offset? : List Char → Option (Int × Nat)
  | mark :: rest =>
    if mark = 'Z' ∨ mark = 'z' then some (0, 1)
    else if mark = '+' ∨ mark = '-' then do
      let hour ← twoDigits? 0 23 rest
      guard (rest[2]? = some ':')
      let minute ← twoDigits? 0 59 (rest.drop 3)
      let minutes : Int := hour * 60 + minute
      pure (if mark = '-' then -minutes else minutes, 6)
    else none
  | [] => none

/-- A date at the head of a text, with the time behind it if there is one: the
moment, nothing when the calendar does not have it, and the length. -/
def moment? (chars : List Char) : Option (Option Moment × Nat) := do
  guard ((chars.take 4).length = 4 ∧ (chars.take 4).all Char.isDigit)
  guard (chars[4]? = some '-')
  let month ← twoDigits? 1 12 (chars.drop 5)
  guard (chars[7]? = some '-')
  let number ← twoDigits? 1 31 (chars.drop 8)
  let day : Day := ⟨Decimal.digitsValue (chars.take 4), month, number⟩
  let existing (moment : Moment) : Option Moment := if day.exists? then some moment else none
  let time : Option (Clock × Nat) := match chars.drop 10 with
    | mark :: rest => if mark = 'T' ∨ mark = 't' ∨ mark = ' ' then clock? rest else none
    | [] => none
  match time with
  | none => pure (existing (.day day), 10)
  | some (clock, size) =>
    match offset? (chars.drop (11 + size)) with
    | some (ahead, offsetSize) =>
      pure (existing (.both day clock (some ahead)), 11 + size + offsetSize)
    | none => pure (existing (.both day clock none), 11 + size)

/-- Reads a date, a time or a number. -/
def readScalar (cursor : Cursor) : Reading Value :=
  match moment? cursor.rest with
  | some (some found, size) => .ok (.moment found, cursor.skip size)
  | some (none, _) => refuseAt cursor .invalidMoment
  | none =>
    match clock? cursor.rest with
    | some (clock, size) => .ok (.moment (.clock clock), cursor.skip size)
    | none =>
      match (basedNumber? cursor.rest).or (decimalNumber? cursor.rest) with
      | some (value, size) =>
        match excessDigits? cursor.rest with
        | some count => refuseAt cursor (.tooManyDigits count)
        | none => .ok (value, cursor.skip size)
      | none =>
        match specialFloats.find? fun word => cursor.sees word.1 with
        | some (word, x) => .ok (.float x, cursor.skip word.length)
        | none => refuseAt cursor .invalidValue

end DocAtlas.Toml
