import DocAtlas.Toml.Document
import DocAtlas.Toml.Quoted
import DocAtlas.Toml.Scalar

/-!
# Reading TOML

This module reads a TOML text as the fields of its top table. Every pair of
carriage return and line feed counts as one line feed. A refusal names one
problem and the place it is reported at.
-/

namespace DocAtlas.Toml

open Text (Cursor)

/-- The characters of a bare key. -/
def isBareKeyChar (c : Char) : Bool :=
  c.isAlphanum || c == '-' || c == '_'

/-- Moves over a comment up to the end of its line. -/
def skipComment (cursor : Cursor) : Except Refusal Cursor :=
  if cursor.next? = some '#' then
    let body := (cursor.rest.drop 1).takeWhile (· != '\n')
    match checkChars isControl (cursor.skip 1) body with
    | .error refusal => .error refusal
    | .ok () => .ok (cursor.skip (body.length + 1))
  else .ok cursor

/-- Moves over blanks, line ends and comments. -/
def skipBetween : (allowance : Nat) → Cursor → Except Refusal Cursor
  | 0, cursor => .ok cursor
  | allowance + 1, cursor =>
    match skipComment (cursor.skipWhile isBlankOrLineEnd) with
    | .error refusal => .error refusal
    | .ok behind =>
      if behind.position = cursor.position then .ok behind else skipBetween allowance behind

/-- Reads one part of a key. -/
def readKeyPart (cursor : Cursor) : Reading String :=
  match cursor.next? with
  | none => refuseAt cursor .invalidKeyStart
  | some c =>
    if isBareKeyChar c then
      .ok (String.ofList (cursor.rest.takeWhile isBareKeyChar), cursor.skipWhile isBareKeyChar)
    else if c.toNat = 39 then readLiteralLine cursor
    else if c.toNat = 34 then readBasicLine cursor
    else refuseAt cursor .invalidKeyStart

/-- Reads a dotted key and the blanks behind it. -/
def readKey : (allowance : Nat) → Cursor → Reading Key
  | 0, cursor => refuseAt cursor .invalidKeyStart
  | allowance + 1, cursor =>
    match readKeyPart cursor with
    | .error refusal => .error refusal
    | .ok (part, behindPart) =>
      let behind := behindPart.skipWhile isBlank
      if behind.next? = some '.' then
        match readKey allowance ((behind.skip 1).skipWhile isBlank) with
        | .error refusal => .error refusal
        | .ok (parts, last) => .ok (part :: parts, last)
      else .ok ([part], behind)

mutual

/-- Reads a value. Every nested call takes one from the allowance. -/
def readValue : (allowance : Nat) → Cursor → Reading Value
  | 0, cursor => refuseAt cursor .invalidValue
  | allowance + 1, cursor =>
    match cursor.next? with
    | none => refuseAt cursor .invalidValue
    | some c =>
      if c.toNat = 34 then
        (if cursor.sees "\"\"\"" then readLines c cursor else readBasicLine cursor).map
          fun (content, behind) => (.text content, behind)
      else if c.toNat = 39 then
        (if cursor.sees "'''" then readLines c cursor else readLiteralLine cursor).map
          fun (content, behind) => (.text content, behind)
      else if cursor.sees "true" then .ok (.bool true, cursor.skip 4)
      else if cursor.sees "false" then .ok (.bool false, cursor.skip 5)
      else if c = '[' then
        match skipBetween allowance (cursor.skip 1) with
        | .error refusal => .error refusal
        | .ok inner =>
          if inner.next? = some ']' then .ok (.list [], inner.skip 1)
          else readItems allowance [] inner
      else if c = '\x7b' then
        let inner := (cursor.skip 1).skipWhile isBlank
        if inner.next? = some '\x7d' then .ok (.record [], inner.skip 1)
        else readInline allowance [] [] inner
      else readScalar cursor

/-- Reads the items of an array from one that is next; `taken` are those before,
the last first. -/
def readItems : (allowance : Nat) → (taken : List Value) → Cursor → Reading Value
  | 0, _, cursor => refuseAt cursor .unclosedArray
  | allowance + 1, taken, cursor =>
    match readValue allowance cursor with
    | .error refusal => .error refusal
    | .ok (item, behindItem) =>
      match skipBetween allowance behindItem with
      | .error refusal => .error refusal
      | .ok behind =>
        if behind.next? = some ']' then .ok (.list (item :: taken).reverse, behind.skip 1)
        else if behind.next? = some ',' then
          match skipBetween allowance (behind.skip 1) with
          | .error refusal => .error refusal
          | .ok next =>
            if next.next? = some ']' then .ok (.list (item :: taken).reverse, next.skip 1)
            else readItems allowance (item :: taken) next
        else refuseAt behind .unclosedArray

/-- Reads a key, an equals sign and a value. -/
def readPair : (allowance : Nat) → Cursor → Reading (Key × Value)
  | 0, cursor => refuseAt cursor .invalidValue
  | allowance + 1, cursor =>
    match readKey (cursor.rest.length + 1) cursor with
    | .error refusal => .error refusal
    | .ok (key, behind) =>
      if behind.next? = some '=' then
        match readValue allowance ((behind.skip 1).skipWhile isBlank) with
        | .error refusal => .error refusal
        | .ok (value, last) => .ok ((key, value), last)
      else refuseAt behind .expectedEquals

/-- Reads the pairs of an inline table from one that is next; `table` holds those
before, and `frozen` the keys of the inline values among them. -/
def readInline : (allowance : Nat) → (frozen : List Key) → (table : Table) → Cursor →
    Reading Value
  | 0, _, _, cursor => refuseAt cursor .unclosedInlineTable
  | allowance + 1, frozen, table, cursor =>
    match readPair allowance cursor with
    | .error refusal => .error refusal
    | .ok ((key, value), behindPair) =>
      let name := key.getLast?.getD ""
      if frozen.any fun other => other.isPrefixOf key then refuseAt behindPair (.immutable key)
      else
        match changeTable false some key.dropLast table with
        | none => refuseAt behindPair .overwritesValue
        | some _ =>
          match changeTable false (addField name value) key.dropLast table with
          | none => refuseAt behindPair (.duplicateInlineKey name)
          | some table =>
            let behind := behindPair.skipWhile isBlank
            if behind.next? = some '\x7d' then .ok (.record table, behind.skip 1)
            else if behind.next? = some ',' then
              let frozen := match value with
                | .record _ | .list _ => key :: frozen
                | _ => frozen
              readInline allowance frozen table ((behind.skip 1).skipWhile isBlank)
            else refuseAt behind .unclosedInlineTable

end

/-- Gives a problem of the document the place of a cursor. -/
def located {α : Type} (cursor : Cursor) : Except Problem α → Except Refusal α
  | .ok value => .ok value
  | .error problem => refuseAt cursor problem

/-- Reads a header, either of a table or of one more table of an array. -/
def readHeader (document : Document) (cursor : Cursor) : Reading Document :=
  let settled := document.settle
  let inArray := cursor.sees "[["
  let opened := (cursor.skip (if inArray then 2 else 1)).skipWhile isBlank
  match readKey (cursor.rest.length + 1) opened with
  | .error refusal => .error refusal
  | .ok (key, behind) =>
    match located behind
        (if inArray then settled.declareArrayTable key else settled.declareTable key) with
    | .error refusal => .error refusal
    | .ok declared =>
      if inArray then
        if behind.sees "]]" then .ok (declared, behind.skip 2)
        else refuseAt behind .expectedArrayTableEnd
      else if behind.sees "]" then .ok (declared, behind.skip 1)
      else refuseAt behind .expectedTableEnd

/-- Reads the statement on a line that is not empty: a pair, a header or nothing
before a comment. -/
def readStatement (document : Document) (cursor : Cursor) : Reading Document :=
  match cursor.next? with
  | none => .ok (document, cursor)
  | some c =>
    if isBareKeyChar c || c.toNat == 34 || c.toNat == 39 then
      match readPair (2 * cursor.rest.length + 2) cursor with
      | .error refusal => .error refusal
      | .ok ((key, value), behind) =>
        match located behind (document.addPair key value) with
        | .error refusal => .error refusal
        | .ok changed => .ok (changed, behind.skipWhile isBlank)
    else if c = '[' then
      match readHeader document cursor with
      | .error refusal => .error refusal
      | .ok (changed, behind) => .ok (changed, behind.skipWhile isBlank)
    else if c = '#' then .ok (document, cursor)
    else refuseAt cursor .invalidStatement

/-- Reads the statements of a text, each on lines of its own. -/
def readStatements : (allowance : Nat) → Document → Cursor → Except Refusal Document
  | 0, document, _ => .ok document
  | allowance + 1, document, cursor =>
    let line := cursor.skipWhile isBlank
    match line.next? with
    | none => .ok document
    | some '\n' => readStatements allowance document (line.skip 1)
    | some _ =>
      match readStatement document line with
      | .error refusal => .error refusal
      | .ok (changed, behindStatement) =>
        match skipComment behindStatement with
        | .error refusal => .error refusal
        | .ok behind =>
          match behind.next? with
          | none => .ok changed
          | some '\n' => readStatements allowance changed (behind.skip 1)
          | some _ => refuseAt behind .expectedLineEnd

/-- Each carriage return before a line feed left out. -/
def unifyLineEnds : List Char → List Char
  | '\r' :: '\n' :: rest => '\n' :: unifyLineEnds rest
  | c :: rest => c :: unifyLineEnds rest
  | [] => []

/-- Reads a TOML text as the fields of its top table, or gives the reason why not. -/
def read (source : String) : Except String Table :=
  let chars := unifyLineEnds source.toList
  match readStatements (chars.length + 1) {} (Cursor.start chars) with
  | .ok document => .ok document.table
  | .error refusal => .error (refusal.message chars)

end DocAtlas.Toml
