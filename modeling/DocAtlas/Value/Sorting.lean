import DocAtlas.Fault
import DocAtlas.Value.Order

/-!
# Sorting of values

This module sorts things whose comparison may fail. What already runs up, or
strictly down, at the head is taken over as one run; every later thing is put
behind those that it does not come before, at a place found by halving. Where the
comparison is an order the result is the stable sort. Where it is none, since a
value that is no number comes neither before nor behind a number, the result
depends on the comparisons made, and of several that fail the first is reported.
-/

namespace DocAtlas

/-- The answer of a comparison, or the misfit in it. -/
def Value.Comparison.checked : Value.Comparison → Except Misfit Bool
  | .before => .ok true
  | .notBefore => .ok false
  | .incomparable left right => .error (.notOrdered left right)

namespace Sorting

/-- Whether the first thing comes strictly before the second one, or why that cannot
be said. -/
abbrev Test (α ε : Type) := α → α → Except ε Bool

/-- Takes things as long as each compares with the one before it as the run does.
What is taken stands in reverse, the last thing first. -/
def takeRun {α ε : Type} (isBefore : Test α ε) (isFalling : Bool) :
    (last : α) → (taken : List α) → List α → Except ε (List α × List α)
  | _, taken, [] => .ok (taken, [])
  | last, taken, item :: rest => do
    if (← isBefore item last) == isFalling then
      takeRun isBefore isFalling item (item :: taken) rest
    else pure (taken, item :: rest)

/-- The run at the head of a list in rising order, and what stands behind it. -/
def leadingRun {α ε : Type} (isBefore : Test α ε) : List α → Except ε (List α × List α)
  | first :: second :: rest => do
    let isFalling ← isBefore second first
    let (taken, others) ← takeRun isBefore isFalling second [second, first] rest
    pure (if isFalling then taken else taken.reverse, others)
  | short => .ok (short, [])

/-- The place in `[low, high]` where a thing goes: behind those that it does not come
before, found by halving. -/
def placeOf {α ε : Type} (isBefore : Test α ε) (item : α) (sorted : Array α) (low high : Nat) :
    Except ε Nat :=
  if low < high then
    let middle := low + (high - low) / 2
    match sorted[middle]? with
    | some other =>
      match isBefore item other with
      | .ok true => placeOf isBefore item sorted low middle
      | .ok false => placeOf isBefore item sorted (middle + 1) high
      | .error failure => .error failure
    | none => .ok low
  else .ok low
termination_by high - low

/-- Inserts things one after another. -/
def insertAll {α ε : Type} (isBefore : Test α ε) : List α → Array α → Except ε (Array α)
  | [], sorted => .ok sorted
  | item :: rest, sorted => do
    let place ← placeOf isBefore item sorted 0 sorted.size
    insertAll isBefore rest (sorted.insertIdxIfInBounds place item)

/-- Things in rising order. -/
def sort {α ε : Type} (isBefore : Test α ε) (items : List α) : Except ε (List α) := do
  let (run, rest) ← leadingRun isBefore items
  pure (← insertAll isBefore rest run.toArray).toList

/-- Whether a thing may stand before another one. -/
def mayPrecede {α ε : Type} (isBefore : Test α ε) (left right : α) : Bool :=
  match isBefore right left with
  | .ok true => false
  | _ => true

/-- Things in rising order, where each has a value that decides first. Texts have an
order, so nothing can fail among them. -/
def sortKeyed {α ε : Type} (key : α → Value) (isBefore : Test α ε) (items : List α) :
    Except ε (List α) :=
  if items.all fun item => (key item).isText then
    .ok (items.mergeSort (mayPrecede isBefore))
  else sort isBefore items

end Sorting

end DocAtlas
