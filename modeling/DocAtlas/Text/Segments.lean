/-!
# Separated texts

This module cuts a text at a separator. Paths are cut at every slash and keep
only the segments that name something; qualified names are cut once, behind the
last separator. White space is cut off at both ends; it is the Unicode property,
with the separator controls U+001C to U+001F and U+0085.
-/

namespace DocAtlas.Text

/-- The parts of a text between the occurrences of a character. -/
def splitChars (separator : Char) : List Char → List (List Char)
  | [] => [[]]
  | c :: rest =>
    if c = separator then [] :: splitChars separator rest
    else
      match splitChars separator rest with
      | part :: parts => (c :: part) :: parts
      | [] => [[c]]

/-- A segment that names something: it is neither empty nor a lone point. -/
def isNaming (segment : List Char) : Bool :=
  segment ≠ [] && segment ≠ ['.']

/-- The segments of a path that name something, in order. -/
def segments (path : String) : List String :=
  ((splitChars '/' path.toList).filter isNaming).map String.ofList

/-- What stands behind the last occurrence of a separator, if it occurs. -/
def afterLast? (separator : List Char) : List Char → Option (List Char)
  | [] => none
  | c :: rest =>
    match afterLast? separator rest with
    | some found => some found
    | none =>
      if separator.isPrefixOf (c :: rest) then some ((c :: rest).drop separator.length) else none

/-- What stands behind the last occurrence of a separator, or the whole text. -/
def lastPart (separator : String) (text : String) : String :=
  match afterLast? separator.toList text.toList with
  | some found => String.ofList found
  | none => text

/-- Segments with a slash between neighbours. -/
def joinSegments (parts : List String) : String :=
  String.intercalate "/" parts

/-- White space: the Unicode property and the separator controls. -/
def isBlank (c : Char) : Bool :=
  let point := c.toNat
  (9 ≤ point && point ≤ 13) || (28 ≤ point && point ≤ 32) || point == 0x85 || point == 0xA0 ||
    point == 0x1680 || (0x2000 ≤ point && point ≤ 0x200A) || point == 0x2028 ||
    point == 0x2029 || point == 0x202F || point == 0x205F || point == 0x3000

/-- The characters without the white space at either end. -/
def trimChars (chars : List Char) : List Char :=
  ((chars.dropWhile isBlank).reverse.dropWhile isBlank).reverse

/-- The text without the white space at either end. -/
def trim (text : String) : String :=
  String.ofList (trimChars text.toList)

end DocAtlas.Text
