/-!
# Nearest doubles

This module reads decimal digits as a number and finds the double nearest to a
decimal. Integers are read and written with a limited number of decimal digits.
-/

namespace DocAtlas.Decimal

/-- The number that decimal digits stand for. -/
def digitsValue (digits : List Char) : Nat :=
  digits.foldl (fun value digit => value * 10 + (digit.toNat - 48)) 0

/-- The most decimal digits that an integer is read or written with. -/
def digitLimit : Nat := 4300

/-- Whether an integer has few enough decimal digits to be written. -/
def isWritable (number : Int) : Bool :=
  number.natAbs < Nat.pow 10 digitLimit

/-- What is said of an integer with too many digits; `count` is how many it has, where
they have been counted. -/
def tooManyDigits (count : Option Nat) : String :=
  let counted := match count with
    | some count => ": value has " ++ toString count ++ " digits"
    | none => ""
  "Exceeds the limit (" ++ toString digitLimit ++ " digits) for integer string conversion" ++
    counted ++ "; use sys.set_int_max_str_digits() to increase the limit"

/-- The double nearest to `digits · 10 ^ power`; magnitudes far beyond the range
of doubles are decided without computing the power. -/
def nearest (digits : Nat) (power : Int) : Float :=
  let leading := ((Nat.toDigits 10 digits).length : Int) + power
  if digits = 0 ∨ leading < -400 then 0
  else if 400 < leading then 1 / 0
  else if power < 0 then Float.ofScientific digits true power.natAbs
  else Float.ofScientific digits false power.natAbs

end DocAtlas.Decimal
