import DocAtlas.Decimal.Shortest
import DocAtlas.Value

/-!
# Order of values

This module compares values of unknown shape. Numbers of every shape compare by
their exact values, texts by code points and lists item by item; values of other
or of different shapes have no order. A value that is no number is the same as
itself, though it comes neither before nor behind any number.
-/

namespace DocAtlas.Value

/-- The order of an integer and a finite double, by exact values. -/
def compareIntFinite (number : Int) (x : Float) : Ordering :=
  let binary := Decimal.Binary.ofFloat x
  let magnitude : Int := binary.significand * Decimal.raise 2 binary.power
  let signed := if x < 0 then -magnitude else magnitude
  compare (number * Decimal.raise 2 (-binary.power)) signed

/-- The order of an integer and a double; a value that is no number has none. -/
def compareIntFloat (number : Int) (x : Float) : Option Ordering :=
  if x.isNaN then none
  else if x.isInf then some (if x < 0 then .gt else .lt)
  else some (compareIntFinite number x)

/-- The order of two doubles; a value that is no number has none. -/
def compareFloat (left right : Float) : Option Ordering :=
  if left < right then some .lt
  else if left == right then some .eq
  else if left > right then some .gt
  else none

/-- A truth value or an integer, as an integer. -/
def whole? : Value → Option Int
  | bool truth => some (if truth then 1 else 0)
  | int number => some number
  | _ => none

/-- The order of two numbers of any shape; none also when a side is no number. -/
def compareNumbers (left right : Value) : Option Ordering :=
  match left, right with
  | float x, float y => compareFloat x y
  | float x, other => other.whole?.bind fun number => (compareIntFloat number x).map Ordering.swap
  | other, float y => other.whole?.bind fun number => compareIntFloat number y
  | left, right => left.whole?.bind fun m => right.whole?.map fun n => compare m n

mutual

/-- Whether two values are equal: numbers by value, records whatever the order
of their fields. -/
def same : Value → Value → Bool
  | null, null => true
  | text left, text right => left == right
  | moment left, moment right => left == right
  | list left, list right => sameItems left right
  | record left, record right => left.length == right.length && sameFields left right
  | float x, float y => x == y || (x.isNaN && y.isNaN)
  | left, right => compareNumbers left right == some .eq

/-- Whether two lists are equal item by item. -/
def sameItems : List Value → List Value → Bool
  | [], [] => true
  | left :: lefts, right :: rights => same left right && sameItems lefts rights
  | _, _ => false

/-- Whether each field on the left has an equal one on the right. -/
def sameFields : List (String × Value) → List (String × Value) → Bool
  | [], _ => true
  | (name, value) :: rest, others =>
    (match lookup name others with
      | some other => same value other
      | none => false) && sameFields rest others

end

/-- How two values stand to each other when both can be ordered. -/
inductive Comparison where
  | before
  | notBefore
  | incomparable (left right : Shape)
deriving DecidableEq

mutual

/-- Whether the left value comes strictly before the right one. -/
def compareBefore : Value → Value → Comparison
  | text left, text right => if left < right then .before else .notBefore
  | list left, list right => compareItems left right
  | left, right =>
    match compareNumbers left right with
    | some .lt => .before
    | some _ => .notBefore
    | none =>
      match left, right with
      | float _, float _ | float _, int _ | int _, float _ | float _, bool _ | bool _, float _ =>
        .notBefore
      | _, _ => .incomparable left.shape right.shape

/-- Lists compare at the first place where they differ, and otherwise by length. -/
def compareItems : List Value → List Value → Comparison
  | [], [] => .notBefore
  | [], _ :: _ => .before
  | _ :: _, [] => .notBefore
  | left :: lefts, right :: rights =>
    if same left right then compareItems lefts rights else compareBefore left right

end

end DocAtlas.Value
