import DocAtlas.Fault
import DocAtlas.Search.Index
import DocAtlas.Search.Tier
import DocAtlas.Text.Segments

/-!
# Queries

This module answers a query from a search index, best hits first and one per
record. Keys that the query starts come from the sorted names; a scan over all
names then offers the weaker tiers, except for positions that already have a
stronger hit. Among equals the shorter key wins, and then the earlier position.
-/

namespace DocAtlas

/-- A record found by one of its keys. -/
structure Hit where
  record : SearchRecord
  position : Int
  key : String
  tier : Tier
deriving Inhabited

namespace Hit

/-- Whether a hit ranks strictly before another one: by tier, then by the length
of the key, then by position. -/
def before (left right : Hit) : Bool :=
  if left.tier.rank ≠ right.tier.rank then left.tier.rank < right.tier.rank
  else if left.key.length ≠ right.key.length then left.key.length < right.key.length
  else left.position < right.position

end Hit

namespace SearchIndex

/-- The record at a position; negative positions count from the end. -/
def recordAt? (index : SearchIndex) (position : Int) : Option SearchRecord :=
  if 0 ≤ position then index.records[position.toNat]?
  else if position.natAbs ≤ index.records.length then
    index.records[index.records.length - position.natAbs]?
  else none

/-- The best hit so far for each position that has one. -/
abbrev Best := List Hit

/-- The hit of a position. -/
def Best.at? (best : Best) (position : Int) : Option Hit :=
  best.find? fun hit => hit.position == position

/-- Takes a hit in unless its position has one that ranks as high. -/
def Best.offer (hit : Hit) : Best → Best
  | [] => [hit]
  | other :: rest =>
    if other.position == hit.position then (if hit.before other then hit else other) :: rest
    else other :: Best.offer hit rest

/-- Offers the record of an entry at a tier. -/
def offer (index : SearchIndex) (entry : NameEntry Int) (tier : Tier) (best : Best) :
    Checked Best :=
  match index.recordAt? entry.2 with
  | some record => .ok (best.offer ⟨record, entry.2, entry.1, tier⟩)
  | none => reject .outOfRange

/-- Offers the entries whose key the query starts. -/
def offerLeading (index : SearchIndex) (query : String) :
    List (NameEntry Int) → Best → Checked Best
  | [], best => .ok best
  | entry :: rest, best => do
    let best ← index.offer entry (if entry.1 = query then .exact else .leading) best
    offerLeading index query rest best

/-- Offers the entries that match in a weaker way than by their start, past
positions that have a stronger hit. -/
def offerWeaker (index : SearchIndex) (query : String) :
    List (NameEntry Int) → Best → Checked Best
  | [], best => .ok best
  | entry :: rest, best => do
    let settled := match Best.at? best entry.2 with
      | some hit => decide (hit.tier.rank ≤ Tier.leading.rank)
      | none => false
    let best ←
      if settled then pure best
      else
        match Tier.of? query entry.1 with
        | some .inside => index.offer entry .inside best
        | some .scattered => index.offer entry .scattered best
        | _ => pure best
    offerWeaker index query rest best

/-- The query that a search compares: without blanks at its ends, in lower case. -/
def normalizeQuery (query : String) : String :=
  Text.lower (Text.trim query)

/-- All hits of a query, best first. A query of blanks only has none. -/
def hits (index : SearchIndex) (query : String) : Checked (List Hit) :=
  let query := normalizeQuery query
  if query = "" then .ok []
  else do
    let best ← index.offerLeading query (index.names.startingWith query) []
    let best ← index.offerWeaker query index.names.entries.toList best
    pure (best.mergeSort fun left right => !right.before left)

/-- The beginning of a list up to a limit; a negative limit counts from the end. -/
def limited {α : Type} (limit : Option Int) (items : List α) : List α :=
  match limit with
  | none => items
  | some limit =>
    if 0 ≤ limit then items.take limit.toNat else items.take (items.length - limit.natAbs)

/-- The hits of a query up to a limit. -/
def search (index : SearchIndex) (query : String) (limit : Option Int) : Checked (List Hit) := do
  let found ← index.hits query
  pure (limited limit found)

/-- The limit that a value stands for; null stands for none. -/
def limitOf : Value → Checked (Option Int)
  | .null => .ok none
  | value =>
    match value.whole? with
    | some limit => .ok (some limit)
    | none => reject (.notIndex value.shape)

/-- The hits of a query up to a limit of any shape, which is looked at when there is
something to search for. -/
def searchUpTo (index : SearchIndex) (query : String) (limit : Value) : Checked (List Hit) := do
  let found ← index.hits query
  if normalizeQuery query = "" then pure []
  else pure (limited (← limitOf limit) found)

end SearchIndex

end DocAtlas
