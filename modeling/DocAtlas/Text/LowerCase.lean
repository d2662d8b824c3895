import DocAtlas.Text.LowerCase.Table

/-!
# Lower-casing

This module gives the full lower-case form of a text: one character may become
two, and a capital sigma at the end of a word becomes the final sigma. Every
other character is lowered without looking at its neighbours.
-/

namespace DocAtlas.Text.LowerCase

/-- Whether one of the ranges holds the character. -/
def inRanges (ranges : Array (Nat × Nat)) (c : Char) : Bool :=
  ranges.any fun range => range.1 ≤ c.toNat && c.toNat ≤ range.2

/-- A cased character that the final sigma rule does not look past. -/
def isCased (c : Char) : Bool :=
  inRanges casedRanges c

/-- A character that the final sigma rule looks past. -/
def isIgnorable (c : Char) : Bool :=
  inRanges ignorableRanges c

/-- The lower-case form of a character that stands alone, when it is one character. -/
def shifted (c : Char) : Char :=
  let point := c.toNat
  match shiftRuns.find? fun run =>
      run.1 ≤ point && point ≤ run.2.1 && (point - run.1) % run.2.2.1 == 0 with
  | some run => Char.ofNat (Int.toNat (point + run.2.2.2))
  | none => c

/-- The lower-case form of a character that stands alone. -/
def lowerAlone (c : Char) : List Char :=
  if c.toNat < 128 then
    [if 65 ≤ c.toNat && c.toNat ≤ 90 then Char.ofNat (c.toNat + 32) else c]
  else if c.toNat = 0x130 then [Char.ofNat 0x69, Char.ofNat 0x307]
  else [shifted c]

/-- Whether the nearest character that is not ignorable is cased. -/
def meetsCased (chars : List Char) : Bool :=
  match chars.dropWhile isIgnorable with
  | c :: _ => isCased c
  | [] => false

/-- A capital sigma is final when a letter stands before it and none after it;
`before` is read from the sigma backwards. -/
def isFinalSigma (before after : List Char) : Bool :=
  meetsCased before && !meetsCased after

/-- The lower-case form of a character between what stands before it, read
backwards, and what stands after it. -/
def lowerBetween (before : List Char) (c : Char) (after : List Char) : List Char :=
  if c.toNat = 0x3A3 then
    [Char.ofNat (if isFinalSigma before after then 0x3C2 else 0x3C3)]
  else lowerAlone c

/-- Lowers the rest of a text whose beginning, read backwards, is `before`. -/
def lowerAfter : List Char → List Char → List Char
  | _, [] => []
  | before, c :: rest => lowerBetween before c rest ++ lowerAfter (c :: before) rest

end DocAtlas.Text.LowerCase

namespace DocAtlas.Text

/-- The full lower-case form of a list of characters. -/
def lowerChars (chars : List Char) : List Char :=
  LowerCase.lowerAfter [] chars

/-- The full lower-case form of a text. -/
def lower (text : String) : String :=
  String.ofList (lowerChars text.toList)

end DocAtlas.Text
