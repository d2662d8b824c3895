import DocAtlas.Console.Emoji.Table
import DocAtlas.Text.LowerCase
import DocAtlas.Text.Segments

/-!
# Emoji codes

This module puts emoji in the place of their codes. A code is the name of an emoji
between two colons, without blanks and in any case; behind its name it may ask for
the plain or for the pictorial variant. A code that names nothing is text.
-/

namespace DocAtlas.Emoji

/-- The value of a hexadecimal digit. -/
def hexValue (c : Char) : Nat :=
  if c.isDigit then c.toNat - 48 else c.toNat - 55

/-- The character that hexadecimal digits stand for. -/
def charOf (digits : List Char) : Char :=
  Char.ofNat (digits.foldl (fun point c => point * 16 + hexValue c) 0)

/-- The name and the emoji that an entry of the table gives. -/
def entryOf (entry : List Char) : String × List Char :=
  (String.ofList (entry.takeWhile (· != '=')),
    (Text.splitChars '-' ((entry.dropWhile (· != '=')).drop 1)).map charOf)

/-- The names of emoji, each with its emoji. -/
def entries : List (String × List Char) :=
  lines.flatMap fun line => (Text.splitChars ' ' line.toList).map entryOf

/-- The emoji of a name. -/
def named? (name : String) : Option (List Char) :=
  (entries.find? fun entry => entry.1 == name).map (·.2)

/-- The two variants that an emoji may be asked for in. -/
inductive Variant where
  | plain
  | pictorial
deriving DecidableEq, Repr

namespace Variant

/-- How a code ends that asks for a variant. -/
def ending : Variant → List Char
  | plain => "-text".toList
  | pictorial => "-emoji".toList

/-- The character behind an emoji that selects a variant. -/
def selector : Variant → Char
  | plain => Char.ofNat 0xFE0E
  | pictorial => Char.ofNat 0xFE0F

end Variant

/-- The name in a code, and the variant that it asks for. -/
def nameOf (code : List Char) : List Char × Option Variant :=
  match [Variant.plain, .pictorial].find? fun variant => variant.ending.isSuffixOf code with
  | some variant => (code.take (code.length - variant.ending.length), some variant)
  | none => (code, none)

/-- The emoji that a code stands for. -/
def ofCode? (code : List Char) : Option (List Char) :=
  let (name, variant) := nameOf code
  (named? (Text.lower (String.ofList name))).map fun emoji =>
    emoji ++ variant.toList.map Variant.selector

/-- The code up to the next colon, and what stands behind that; nothing when a blank
comes first. -/
def code? : List Char → Option (List Char × List Char)
  | [] => none
  | c :: rest =>
    if c = ':' then some ([], rest)
    else if Text.isBlank c then none
    else (code? rest).map fun found => (c :: found.1, found.2)

/-- What stands behind a code is shorter. -/
theorem length_behind_code {chars : List Char} {found : List Char × List Char}
    (isCode : code? chars = some found) : found.2.length < chars.length := by
  induction chars generalizing found with
  | nil => simp [code?] at isCode
  | cons c rest inductionHypothesis =>
    rw [code?] at isCode
    split at isCode
    · cases isCode; simp
    · split at isCode
      · cases isCode
      · obtain ⟨inner, isInner, rfl⟩ := Option.map_eq_some_iff.1 isCode
        have := inductionHypothesis isInner
        simp only [List.length_cons]
        omega

/-- A text with emoji in the place of their codes. -/
def replaceCodes (chars : List Char) : List Char :=
  match chars with
  | [] => []
  | c :: rest =>
    if c ≠ ':' then c :: replaceCodes rest
    else
      match _isCode : code? rest with
      | some (code, behind) =>
        (ofCode? code).getD (':' :: code ++ [':']) ++ replaceCodes behind
      | none => c :: replaceCodes rest
termination_by chars.length
decreasing_by
  · simp
  · exact Nat.lt_succ_of_lt (length_behind_code _isCode)
  · simp

end DocAtlas.Emoji
