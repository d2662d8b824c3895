import DocAtlas.Decimal.Nearest
import DocAtlas.Text.Segments

/-!
# Limits

This module reads a whole number as it is given on a command line: white space
around it, a plus sign, leading zeros, single underscores between digits and a
fraction of zeros leave no trace. Digits are those of ASCII.
-/

namespace DocAtlas.Limit

/-- Whether a character may stand around a number: white space, but no separator
control. -/
def surrounds (c : Char) : Bool :=
  Text.isBlank c && !(28 ≤ c.toNat && c.toNat ≤ 31)

/-- A number without the white space around it and the plus sign in front of it. -/
def withoutSign (written : List Char) : List Char :=
  match ((written.dropWhile surrounds).reverse.dropWhile surrounds).reverse with
  | '+' :: rest => rest
  | chars => chars

/-- A number without its fraction, which may hold zeros only and is not empty. -/
def withoutFraction? (chars : List Char) : Option (List Char) :=
  match chars.dropWhile (· != '.') with
  | [] => some chars
  | _ :: fraction =>
    if fraction ≠ [] ∧ fraction.all (· == '0') then some (chars.takeWhile (· != '.')) else none

/-- A number without its leading zeros. Underscores need not stand alone between them. -/
def withoutZeros (chars : List Char) : List Char :=
  match chars with
  | '0' :: rest => rest.dropWhile fun c => c == '0' || c == '_'
  | chars => chars

/-- The digits of groups with single underscores between them. -/
def digits? (chars : List Char) : Option (List Char) :=
  let groups := Text.splitChars '_' chars
  if groups.all fun group => !group.isEmpty && group.all Char.isDigit then some groups.flatten
  else none

/-- The number that a text writes, if it is at least one and has few enough digits. -/
def read? (written : String) : Option Nat := do
  let whole ← withoutFraction? (withoutSign written.toList)
  let digits ← digits? (withoutZeros whole)
  if digits.length ≤ Decimal.digitLimit then
    let number := Decimal.digitsValue digits
    if 1 ≤ number then some number else none
  else none

end DocAtlas.Limit
