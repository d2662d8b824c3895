import DocAtlas.Search.Record
import DocAtlas.Text.LowerCase
import DocAtlas.Value.Sorting

/-!
# Name index

This module holds lower-cased search keys in order, each with the position of its
record, and finds the keys that start with a text by binary search. A record has one
entry for each spelling among its keys.
-/

namespace DocAtlas

/-- A lower-cased key and the position of its record. -/
abbrev NameEntry (Position : Type) := String × Position

/-- The order of entries: by key in code points, then by position. -/
def NameEntry.le (left right : NameEntry Int) : Bool :=
  left.1 < right.1 || (left.1 == right.1 && left.2 ≤ right.2)

/-- Whether an entry whose position has any shape comes strictly before another one,
or the misfit between their positions. -/
def NameEntry.isBefore (left right : NameEntry Value) : Except Misfit Bool :=
  if left.1 ≠ right.1 then .ok (left.1 < right.1)
  else if Value.same left.2 right.2 then .ok false
  else (Value.compareBefore left.2 right.2).checked

/-- Entries in ascending order. -/
structure NameIndex (Position : Type) where
  entries : Array (NameEntry Position)
deriving Inhabited

namespace NameIndex

/-- The index of some entries. -/
def ofEntries (entries : List (NameEntry Int)) : NameIndex Int :=
  ⟨(entries.mergeSort NameEntry.le).toArray⟩

/-- The index of entries whose positions have any shape. -/
def ofValues (entries : List (NameEntry Value)) : Checked (NameIndex Value) :=
  ((Sorting.sort NameEntry.isBefore entries).mapError Failure.misfit).map fun sorted =>
    ⟨sorted.toArray⟩

/-- The entries of records that start at a position, one for each key of a record and
spelling. -/
def entriesFrom (position : Nat) : List SearchRecord → List (NameEntry Int)
  | [] => []
  | record :: rest =>
    (record.keys.eraseDups.map fun key => (Text.lower key, (position : Int))) ++
      entriesFrom (position + 1) rest

/-- The index of the keys of records. -/
def ofRecords (records : List SearchRecord) : NameIndex Int :=
  ofEntries (entriesFrom 0 records)

/-- How many entries an index has. -/
def size {Position : Type} (index : NameIndex Position) : Nat :=
  index.entries.size

/-- The first place in `[low, high)` whose key is not below the target, by
halving; `high` when every key is below it. -/
def lowerBound {Position : Type} (entries : Array (NameEntry Position)) (target : String)
    (low high : Nat) : Nat :=
  if low < high then
    let middle := (low + high) / 2
    match entries[middle]? with
    | some entry =>
      if entry.1 < target then lowerBound entries target (middle + 1) high
      else lowerBound entries target low middle
    | none => low
  else low
termination_by high - low

/-- Whether a key starts with a text. -/
def startsWith (start key : String) : Bool :=
  start.toList.isPrefixOf key.toList

/-- The entries that a lower-cased text starts: from the lower bound of the text up
to the first entry that it does not start. -/
def startingWith {Position : Type} (index : NameIndex Position) (start : String) :
    List (NameEntry Position) :=
  let first := lowerBound index.entries start 0 index.entries.size
  (index.entries.toList.drop first).takeWhile fun entry => startsWith start entry.1

/-- The wire form of entries whose positions have any shape. -/
def wireOf (entries : List (NameEntry Value)) : Value :=
  .list (entries.map fun entry => .list [.text entry.1, entry.2])

/-- The wire form of an index. -/
def wire (index : NameIndex Int) : Value :=
  wireOf (index.entries.toList.map fun entry => (entry.1, .int entry.2))

end NameIndex

end DocAtlas
