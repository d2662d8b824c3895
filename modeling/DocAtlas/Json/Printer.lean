import DocAtlas.Decimal.Layout
import DocAtlas.Decimal.Nearest
import DocAtlas.Text.Quoted
import DocAtlas.Value

/-!
# Writing JSON

This module writes a value as compact JSON: nothing stands between the parts,
and of all characters only the double quote, the backslash and those below
U+0020 are escaped. Moments and integers with too many digits have no JSON form
of their own; `unwritten?` finds the first of them.
-/

namespace DocAtlas.Json

/-- How a character is written inside a text. -/
def writeChar (c : Char) : List Char :=
  if c = Text.doubleQuote ∨ c = Text.backslash then [Text.backslash, c]
  else if c = '\n' then [Text.backslash, 'n']
  else if c = '\r' then [Text.backslash, 'r']
  else if c = '\t' then [Text.backslash, 't']
  else if c.toNat = 8 then [Text.backslash, 'b']
  else if c.toNat = 12 then [Text.backslash, 'f']
  else if c.toNat < 32 then Text.backslash :: 'u' :: Text.hexDigits 4 c.toNat
  else [c]

/-- A text between double quotes. -/
def writeText (content : String) : List Char :=
  Text.doubleQuote :: content.toList.flatMap writeChar ++ [Text.doubleQuote]

mutual

/-- A value as compact JSON. -/
def write : Value → List Char
  | .null => "null".toList
  | .bool true => "true".toList
  | .bool false => "false".toList
  | .int number => (toString number).toList
  | .float number => (Decimal.Layout.artifact.text number).toList
  | .text content => writeText content
  | .list items => '[' :: writeItems items ++ [']']
  | .record fields => '\x7b' :: writeFields fields ++ ['\x7d']
  | .moment given => writeText given.text

/-- The items of a list, with a comma between neighbours. -/
def writeItems : List Value → List Char
  | [] => []
  | item :: rest =>
    match rest with
    | [] => write item
    | _ :: _ => write item ++ ',' :: writeItems rest

/-- The fields of a record, with a comma between neighbours. -/
def writeFields : List (String × Value) → List Char
  | [] => []
  | (name, value) :: rest =>
    let entry := writeText name ++ ':' :: write value
    match rest with
    | [] => entry
    | _ :: _ => entry ++ ',' :: writeFields rest

end

mutual

/-- The first part of a value, in the order of writing, that has no JSON form. -/
def unwritten? : Value → Option Value
  | .int number => if Decimal.isWritable number then none else some (.int number)
  | .moment given => some (.moment given)
  | .list items => unwrittenItem? items
  | .record fields => unwrittenField? fields
  | _ => none

/-- The first part of the items of a list that has no JSON form. -/
def unwrittenItem? : List Value → Option Value
  | [] => none
  | item :: rest => (unwritten? item).or (unwrittenItem? rest)

/-- The first part of the fields of a record that has no JSON form. -/
def unwrittenField? : List (String × Value) → Option Value
  | [] => none
  | (_, value) :: rest => (unwritten? value).or (unwrittenField? rest)

end

/-- A value as compact JSON. -/
def compact (value : Value) : String :=
  String.ofList (write value)

end DocAtlas.Json
