import DocAtlas.Search.Tier
import Mathlib.Data.List.Infix

/-!
# Meaning of the tiers

The tiers grade relations between character lists: equality, prefix, infix and
subsequence. Each implies the next one, and the tier that is computed is the best that
holds.
-/

namespace DocAtlas.Tier

/-- How a query stands in a key at each tier. -/
def Stands (query key : String) : Tier → Prop
  | exact => key = query
  | leading => query.toList <+: key.toList
  | inside => query.toList <:+: key.toList
  | scattered => query.toList.Sublist key.toList

/-- A tier is the best of a query in a key when it holds and no better one does. -/
structure IsBest (query key : String) (tier : Tier) : Prop where
  stands : tier.Stands query key
  least : ∀ better : Tier, better.rank < tier.rank → ¬ better.Stands query key

/-- Taking the first occurrence of each character finds every subsequence. -/
theorem isScattered_iff {query key : List Char} :
    isScattered query key = true ↔ query.Sublist key := by
  induction key generalizing query with
  | nil => cases query <;> simp [isScattered]
  | cons k key inductionHypothesis =>
      cases query with
      | nil => simp [isScattered]
      | cons q query =>
          unfold isScattered
          by_cases same : q = k
          · subst same
            rw [if_pos rfl, inductionHypothesis, List.cons_sublist_cons]
          · rw [if_neg same, inductionHypothesis, List.sublist_cons_iff]
            constructor
            · exact .inl
            · rintro (isRest | ⟨rest, split, -⟩)
              · exact isRest
              · exact absurd (List.cons.inj split).1 same

/-- A query is inside a key when it is a substring of it. -/
theorem isInside_iff {query key : List Char} : isInside query key = true ↔ query <:+: key := by
  induction key with
  | nil => simp [isInside]
  | cons k key inductionHypothesis =>
      unfold isInside
      rw [Bool.or_eq_true, List.isPrefixOf_iff_prefix, inductionHypothesis, List.infix_cons_iff]

/-- A better tier implies every weaker one. -/
theorem Stands.weaken {query key : String} {better tier : Tier}
    (stands : better.Stands query key) (weaker : better.rank ≤ tier.rank) :
    tier.Stands query key := by
  have leads : key = query → query.toList <+: key.toList := by
    rintro rfl
    exact List.prefix_refl _
  cases better <;> cases tier <;> first
    | exact stands
    | exact absurd weaker (by decide)
    | exact leads stands
    | exact (leads stands).isInfix
    | exact (leads stands).sublist
    | exact List.IsPrefix.isInfix stands
    | exact List.IsPrefix.sublist stands
    | exact List.IsInfix.sublist stands

/-- At every tier the query is a subsequence of the key. -/
theorem Stands.sublist {query key : String} {tier : Tier} (stands : tier.Stands query key) :
    query.toList.Sublist key.toList := by
  have weakest : tier.rank ≤ scattered.rank := by cases tier <;> decide
  exact stands.weaken weakest

/-- Only one tier is the best. -/
theorem IsBest.unique {query key : String} {left right : Tier}
    (leftBest : left.IsBest query key) (rightBest : right.IsBest query key) : left = right := by
  have notBetter := fun less => rightBest.least left less leftBest.stands
  have notWorse := fun less => leftBest.least right less rightBest.stands
  cases left <;> cases right <;> first
    | rfl
    | exact absurd (by decide) notBetter
    | exact absurd (by decide) notWorse

/-- The tier that is computed is the best one. -/
theorem of?_isBest {query key : String} {tier : Tier} (found : of? query key = some tier) :
    tier.IsBest query key := by
  have sameText : key.toList = query.toList ↔ key = query :=
    ⟨fun same => String.toList_injective same, congrArg String.toList⟩
  unfold of? ofChars? at found
  simp only [sameText, List.isPrefixOf_iff_prefix, isInside_iff, isScattered_iff] at found
  split at found
  · rename_i stands
    cases found
    exact ⟨stands, fun _ less => absurd less (Nat.not_lt_zero _)⟩
  · rename_i notExact
    split at found
    · rename_i stands
      cases found
      refine ⟨stands, fun better less => ?_⟩
      cases better <;> first
        | exact notExact
        | exact absurd less (by decide)
    · rename_i notLeading
      split at found
      · rename_i stands
        cases found
        refine ⟨stands, fun better less => ?_⟩
        cases better <;> first
          | exact notExact
          | exact notLeading
          | exact absurd less (by decide)
      · rename_i notInside
        split at found
        · rename_i stands
          cases found
          refine ⟨stands, fun better less => ?_⟩
          cases better <;> first
            | exact notExact
            | exact notLeading
            | exact notInside
            | exact absurd less (by decide)
        · cases found

/-- A key has a tier exactly when the query is a subsequence of it. -/
theorem of?_eq_none_iff {query key : String} :
    of? query key = none ↔ ¬ query.toList.Sublist key.toList := by
  constructor
  · intro noTier isSubsequence
    unfold of? ofChars? at noTier
    rw [isScattered_iff.mpr isSubsequence] at noTier
    split at noTier
    · cases noTier
    · split at noTier
      · cases noTier
      · split at noTier <;> cases noTier
  · intro notSubsequence
    cases found : of? query key with
    | none => rfl
    | some tier => exact absurd (of?_isBest found).stands.sublist notSubsequence

/-- The tier of a match is the best one that holds. -/
theorem of?_eq_some_iff {query key : String} {tier : Tier} :
    of? query key = some tier ↔ tier.IsBest query key := by
  refine ⟨of?_isBest, fun isBest => ?_⟩
  cases found : of? query key with
  | none => exact absurd isBest.stands.sublist (of?_eq_none_iff.mp found)
  | some other => rw [(of?_isBest found).unique isBest]

/-- The tier of a key that the query starts. -/
theorem of?_of_prefix {query key : String} (leads : query.toList <+: key.toList) :
    of? query key = some (if key = query then exact else leading) := by
  rw [of?_eq_some_iff]
  by_cases same : key = query
  · rw [if_pos same]
    exact ⟨same, fun _ less => absurd less (Nat.not_lt_zero _)⟩
  · rw [if_neg same]
    refine ⟨leads, fun better less => ?_⟩
    cases better with
    | exact => exact same
    | _ => exact absurd less (by decide)

/-- The query starts the keys of the two best tiers, and no others. -/
theorem rank_le_leading_iff {query key : String} {tier : Tier} (isBest : tier.IsBest query key) :
    tier.rank ≤ leading.rank ↔ query.toList <+: key.toList := by
  constructor
  · exact isBest.stands.weaken
  · intro leads
    by_contra weaker
    exact isBest.least leading (Nat.lt_of_not_le weaker) leads

end DocAtlas.Tier
