/-!
# Shortest decimals

This module finds, for a positive finite double, the decimal with the fewest
digits among those that read back as it, and of several the nearest to it. All
arithmetic is exact and on natural numbers: a double is `significand · 2 ^ power`
with the interval of the reals that round to it, and the candidates with `count`
digits are the two neighbours of its value on that decimal grid.
-/

namespace DocAtlas.Decimal

/-- A positive number `significand · 2 ^ power`; `narrow` says that the next
smaller double is only half as far away as the next larger one. -/
structure Binary where
  significand : Nat
  power : Int
  narrow : Bool

/-- The fields of a finite double, sign left out. -/
def Binary.ofFloat (x : Float) : Binary :=
  let bits : Nat := x.toBits.toNat
  let fraction : Nat := bits % Nat.pow 2 52
  let biased : Nat := bits / Nat.pow 2 52 % Nat.pow 2 11
  if biased = 0 then ⟨fraction, -1074, false⟩
  else ⟨Nat.pow 2 52 + fraction, (biased : Int) - 1075, fraction = 0 && 1 < biased⟩

/-- The decimal `digits · 10 ^ power`. -/
structure Digits where
  digits : Nat
  power : Int

/-- Two to the positive part of a power. -/
def raise (base : Nat) (power : Int) : Nat :=
  Nat.pow base power.toNat

/-- How many decimal digits a positive number has. -/
def digitCount (value : Nat) : Nat :=
  (Nat.toDigits 10 value).length

/-- The exponent of the leading decimal digit of a positive number. -/
def Binary.leading (number : Binary) : Int :=
  let scaled := number.significand * raise 2 number.power * Nat.pow 10 400 / raise 2 (-number.power)
  (digitCount scaled : Int) - 401

/-- The two neighbours of a number on the grid of the multiples of `10 ^ power`
that read back as it, the nearer one first; a tie goes to the even neighbour. -/
def Binary.neighbours (number : Binary) (power : Int) : List Nat :=
  let grid := raise 10 power * raise 2 (-number.power)
  let step := raise 10 (-power) * raise 2 number.power
  let value := 4 * number.significand * step
  let least := (4 * number.significand - if number.narrow then 1 else 2) * step
  let greatest := (4 * number.significand + 2) * step
  let below := value / (4 * grid)
  let inside (candidate : Nat) : Bool :=
    let point := 4 * candidate * grid
    if number.significand % 2 = 0 then least ≤ point && point ≤ greatest
    else least < point && point < greatest
  let distanceBelow := value - 4 * below * grid
  let distanceAbove := 4 * (below + 1) * grid - value
  let ordered :=
    if distanceBelow < distanceAbove || (distanceBelow == distanceAbove && below % 2 == 0) then
      [below, below + 1]
    else [below + 1, below]
  ordered.filter inside

/-- The first of the grids with `count`, `count + 1`, … digits that holds a
neighbour reading back, after at most `more` further grids. -/
def Binary.firstGrid (number : Binary) : (more count : Nat) → Digits
  | 0, _ => ⟨number.significand, number.power⟩
  | more + 1, count =>
    let power := number.leading - count + 1
    match number.neighbours power with
    | candidate :: _ => ⟨candidate, power⟩
    | [] => number.firstGrid more (count + 1)

/-- Moves trailing zeros of the digits into the power, at most `limit` of them. -/
def Digits.trimZeros : Nat → Digits → Digits
  | 0, number => number
  | limit + 1, number =>
    if number.digits % 10 = 0 ∧ number.digits ≠ 0 then
      trimZeros limit ⟨number.digits / 10, number.power + 1⟩
    else number

/-- The shortest decimal that reads back as the given positive finite double. -/
def shortest (x : Float) : Digits :=
  ((Binary.ofFloat x).firstGrid 17 1).trimZeros 20

end DocAtlas.Decimal
