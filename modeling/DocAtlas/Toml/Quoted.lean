import DocAtlas.Toml.Problem

/-!
# Quoted texts of TOML

This module reads the four forms of quoted text: basic and literal, on one line
or on several. Basic texts have escapes; a backslash at the end of a line of a
basic text on several lines takes the blanks behind it away.
-/

namespace DocAtlas.Toml

open Text (Cursor)

/-- Blanks on one line. -/
def isBlank (c : Char) : Bool :=
  c == ' ' || c == '\t'

/-- Blanks and line ends. -/
def isBlankOrLineEnd (c : Char) : Bool :=
  isBlank c || c == '\n'

/-- Control characters other than the tab, which texts and comments may not hold. -/
def isControl (c : Char) : Bool :=
  (c.toNat < 32 && c != '\t') || c.toNat == 127

/-- Control characters that texts on several lines may not hold. -/
def isControlInLines (c : Char) : Bool :=
  isControl c && c != '\n'

/-- What stands before the first occurrence of a text. -/
def before? (mark : List Char) : List Char → Option (List Char)
  | [] => none
  | c :: rest =>
    if mark.isPrefixOf (c :: rest) then some [] else (before? mark rest).map (c :: ·)

/-- Checks that the characters next to a cursor pass a test. -/
def checkChars (illegal : Char → Bool) (cursor : Cursor) (chars : List Char) :
    Except Refusal Unit :=
  match (chars.dropWhile fun c => !illegal c) with
  | c :: _ =>
    refuseAt (cursor.skip (chars.takeWhile fun c => !illegal c).length) (.foundInvalid c)
  | [] => .ok ()

/-- Reads a literal text up to its closing mark. -/
def readLiteral (illegal : Char → Bool) (mark : String) (cursor : Cursor) : Reading String :=
  match before? mark.toList cursor.rest with
  | none => refuseAt (cursor.skip cursor.rest.length) (.expectedText mark)
  | some content =>
    match checkChars illegal cursor content with
    | .error refusal => .error refusal
    | .ok () => .ok (String.ofList content, cursor.skip (content.length + mark.length))

/-- The character that a one-letter escape stands for. -/
def escaped? (c : Char) : Option Char :=
  match c.toNat with
  | 98 => some (Char.ofNat 8)
  | 116 => some '\t'
  | 110 => some '\n'
  | 102 => some (Char.ofNat 12)
  | 114 => some '\r'
  | 34 => some (Char.ofNat 34)
  | 92 => some (Char.ofNat 92)
  | _ => none

/-- The value of hexadecimal digits, if there are as many as asked for. -/
def hexValue? (count : Nat) (chars : List Char) : Option Nat :=
  let digits := chars.take count
  if digits.length = count ∧ digits.all (fun c => c.isDigit || ('a' ≤ c && c ≤ 'f') ||
      ('A' ≤ c && c ≤ 'F')) then
    some (digits.foldl (fun value c =>
      value * 16 + if c.isDigit then c.toNat - 48
        else if 97 ≤ c.toNat then c.toNat - 87 else c.toNat - 55) 0)
  else none

/-- Reads a character given by its code point, behind the letter of the escape. -/
def readCodePoint (count : Nat) (cursor : Cursor) : Reading (List Char) :=
  match hexValue? count cursor.rest with
  | none => refuseAt cursor .invalidHex
  | some code =>
    if code < 0xD800 ∨ (0xDFFF < code ∧ code ≤ 0x10FFFF) then
      .ok ([Char.ofNat code], cursor.skip count)
    else refuseAt (cursor.skip count) .notScalar

/-- Reads an escape, its backslash included. -/
def readEscape (lines : Bool) (cursor : Cursor) : Reading (List Char) :=
  let behind := cursor.skip 2
  match (cursor.rest.drop 1).head? with
  | none => refuseAt behind .unescapedBackslash
  | some c =>
    if lines && c == '\n' then .ok ([], behind.skipWhile isBlankOrLineEnd)
    else if lines && isBlank c then
      let blankless := behind.skipWhile isBlank
      match blankless.next? with
      | none => .ok ([], blankless)
      | some '\n' => .ok ([], (blankless.skip 1).skipWhile isBlankOrLineEnd)
      | some _ => refuseAt blankless .unescapedBackslash
    else if c = 'u' then readCodePoint 4 behind
    else if c = 'U' then readCodePoint 8 behind
    else
      match escaped? c with
      | some replaced => .ok ([replaced], behind)
      | none => refuseAt behind .unescapedBackslash

/-- Reads a basic text up to its closing quote or quotes; `taken` is what was read
before, last character first. Every step takes one from the allowance. -/
def readBasic (lines : Bool) :
    (allowance : Nat) → (taken : List Char) → Cursor → Reading String
  | 0, _, cursor => refuseAt cursor .unterminatedText
  | allowance + 1, taken, cursor =>
    match cursor.next? with
    | none => refuseAt cursor .unterminatedText
    | some c =>
      if c.toNat = 34 then
        if !lines then .ok (String.ofList taken.reverse, cursor.skip 1)
        else if cursor.sees "\"\"\"" then .ok (String.ofList taken.reverse, cursor.skip 3)
        else readBasic lines allowance (c :: taken) (cursor.skip 1)
      else if c.toNat = 92 then
        match readEscape lines cursor with
        | .error refusal => .error refusal
        | .ok (replaced, behind) => readBasic lines allowance (replaced.reverse ++ taken) behind
      else if (if lines then isControlInLines c else isControl c) then refuseAt cursor (.illegal c)
      else readBasic lines allowance (c :: taken) (cursor.skip 1)

/-- Reads a basic text on one line, its opening quote included. -/
def readBasicLine (cursor : Cursor) : Reading String :=
  readBasic false (cursor.rest.length + 1) [] (cursor.skip 1)

/-- Reads a literal text on one line, its opening quote included. -/
def readLiteralLine (cursor : Cursor) : Reading String :=
  readLiteral isControl "'" (cursor.skip 1)

/-- Reads a text on several lines, its opening quotes included. One or two quotes
right behind the closing ones belong to the text. -/
def readLines (quote : Char) (cursor : Cursor) : Reading String :=
  let opened := cursor.skip 3
  let first := if opened.next? = some '\n' then opened.skip 1 else opened
  let body :=
    if quote.toNat = 39 then readLiteral isControlInLines "'''" first
    else readBasic true (first.rest.length + 1) [] first
  match body with
  | .error refusal => .error refusal
  | .ok (content, behind) =>
    let extra := ((behind.rest.take 2).takeWhile (· == quote)).length
    .ok (content ++ String.ofList (List.replicate extra quote), behind.skip extra)

end DocAtlas.Toml
