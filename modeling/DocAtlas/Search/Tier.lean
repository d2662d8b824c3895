/-!
# Match tiers

This module grades how a query stands in a key: as the whole of it, at its
start, elsewhere in one piece, or scattered over it in order. Each tier implies
the next, and a key has the best tier that holds.
-/

namespace DocAtlas

/-- How a query stands in a key, best first. -/
inductive Tier where
  | exact
  | leading
  | inside
  | scattered
deriving DecidableEq, Repr, Inhabited

namespace Tier

/-- The place of a tier in the ranking. -/
def rank : Tier → Nat
  | exact => 0
  | leading => 1
  | inside => 2
  | scattered => 3

/-- The word that results show for a tier. -/
def word : Tier → String
  | exact => "exact"
  | leading => "prefix"
  | inside => "substring"
  | scattered => "fuzzy"

/-- Whether the characters of a query occur in a key in order, found by taking
the first occurrence of each. -/
def isScattered : (query key : List Char) → Bool
  | [], _ => true
  | _ :: _, [] => false
  | q :: query, k :: key => if q = k then isScattered query key else isScattered (q :: query) key

/-- Whether a query occurs in a key in one piece. -/
def isInside (query : List Char) : (key : List Char) → Bool
  | [] => query.isEmpty
  | k :: key => query.isPrefixOf (k :: key) || isInside query key

/-- The best tier of a query in a key, both lower-cased. -/
def ofChars? (query key : List Char) : Option Tier :=
  if key = query then some exact
  else if query.isPrefixOf key then some leading
  else if isInside query key then some inside
  else if isScattered query key then some scattered
  else none

/-- The best tier of a query in a key, both lower-cased. -/
def of? (query key : String) : Option Tier :=
  ofChars? query.toList key.toList

end Tier

end DocAtlas
