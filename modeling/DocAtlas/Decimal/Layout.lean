import DocAtlas.Decimal.Shortest

/-!
# Decimal layout

This module writes a double as text from its shortest digits. Which exponents
are written positionally is the content of one record value.
-/

namespace DocAtlas.Decimal

/-- The decisions of a decimal layout: the point stands inside or beside the
digits when its place is above `lowest` and at most `highest`, and the three
texts are those of the values without digits. -/
structure Layout where
  lowest : Int
  highest : Int
  exponentDigits : Nat
  infinity : String
  negativeInfinity : String
  notANumber : String

/-- Values shown in messages and names. -/
def Layout.display : Layout := ⟨-4, 16, 2, "inf", "-inf", "nan"⟩

/-- Values written to artifacts. -/
def Layout.artifact : Layout := ⟨-4, 16, 2, "Infinity", "-Infinity", "NaN"⟩

/-- As many zeros as asked for. -/
def zeros (count : Nat) : List Char :=
  List.replicate count '0'

/-- Digits with the point after the first `place` of them, padded by zeros; a
whole number keeps one zero behind the point. -/
def positional (digits : List Char) (place : Int) : List Char :=
  if place ≤ 0 then '0' :: '.' :: zeros (-place).toNat ++ digits
  else
    let whole := place.toNat
    if digits.length ≤ whole then digits ++ zeros (whole - digits.length) ++ ['.', '0']
    else digits.take whole ++ '.' :: digits.drop whole

/-- An exponent with its sign and at least `width` digits. -/
def signedExponent (width : Nat) (exponent : Int) : List Char :=
  let digits := Nat.toDigits 10 exponent.natAbs
  'e' :: (if exponent < 0 then '-' else '+') :: zeros (width - digits.length) ++ digits

/-- Digits with the point after the first of them, and an exponent. -/
def scientific (width : Nat) (digits : List Char) (place : Int) : List Char :=
  let fraction := match digits.drop 1 with
    | [] => []
    | rest => '.' :: rest
  digits.take 1 ++ fraction ++ signedExponent width (place - 1)

/-- A positive finite double. -/
def Layout.positive (layout : Layout) (x : Float) : List Char :=
  let number := shortest x
  let digits := Nat.toDigits 10 number.digits
  let place := digits.length + number.power
  if layout.lowest < place ∧ place ≤ layout.highest then positional digits place
  else scientific layout.exponentDigits digits place

/-- A double as text. -/
def Layout.text (layout : Layout) (x : Float) : String :=
  if x.isNaN then layout.notANumber
  else if x.isInf then if x < 0 then layout.negativeInfinity else layout.infinity
  else
    let sign := if Nat.pow 2 63 ≤ x.toBits.toNat then ['-'] else []
    let digits := if x == 0 then ['0', '.', '0'] else layout.positive x.abs
    String.ofList (sign ++ digits)

end DocAtlas.Decimal
