import DocAtlas.Proofs.Search.Tier
import DocAtlas.Search.Query
import Mathlib.Data.List.Nodup
import Mathlib.Data.Prod.Lex
import Mathlib.Data.String.Basic

/-!
# Tables of best hits

The table of a search holds one hit for each position. This module says what it means
for a table to be the best of the hits that were considered so far, and that it stays so
when a hit is offered, and when one is passed over that could not win.
-/

namespace DocAtlas

namespace Hit

/-- The grade of a key at a tier: better tiers, then shorter keys, then earlier ones. -/
def gradeOf (tier : Tier) (key : String) : ℕ ×ₗ ℕ ×ₗ String :=
  toLex (tier.rank, toLex (key.length, key))

/-- The grade by which hits of one position compete. -/
def grade (hit : Hit) : ℕ ×ₗ ℕ ×ₗ String :=
  gradeOf hit.tier hit.key

/-- The standing by which hits are listed: the tier, the length of the key and the
position. -/
def standing (hit : Hit) : ℕ ×ₗ ℕ ×ₗ Int :=
  toLex (hit.tier.rank, toLex (hit.key.length, hit.position))

/-- Hits are listed by their standing. -/
theorem before_eq (left right : Hit) :
    left.before right = decide (left.standing < right.standing) := by
  unfold before standing
  rw [Bool.eq_iff_iff, decide_eq_true_iff, Prod.Lex.toLex_lt_toLex, Prod.Lex.toLex_lt_toLex]
  dsimp only
  by_cases sameRank : left.tier.rank = right.tier.rank
  · by_cases sameLength : left.key.length = right.key.length
    · simp [sameRank, sameLength]
    · simp [sameRank, sameLength]
  · simp [sameRank]

/-- Of two hits of one position the one listed first has the better grade. -/
theorem grade_lt_of_before {left right : Hit} (before : left.before right = true)
    (samePosition : left.position = right.position) : left.grade < right.grade := by
  rw [before_eq, decide_eq_true_iff] at before
  unfold standing at before
  unfold grade gradeOf
  rw [Prod.Lex.toLex_lt_toLex, Prod.Lex.toLex_lt_toLex] at before ⊢
  rcases before with better | ⟨sameRank, shorter | ⟨-, earlier⟩⟩
  · exact .inl better
  · exact .inr ⟨sameRank, .inl shorter⟩
  · exact absurd earlier (by simp [samePosition])

/-- A hit that is not listed behind a rival has a grade as good, if its key is as early
wherever the two tie. -/
theorem grade_le_of_not_before {hit rival : Hit} (notBefore : rival.before hit = false)
    (tie : rival.tier.rank = hit.tier.rank → hit.key ≤ rival.key) : hit.grade ≤ rival.grade := by
  rw [before_eq, decide_eq_false_iff_not] at notBefore
  unfold standing at notBefore
  unfold grade gradeOf
  rw [Prod.Lex.toLex_lt_toLex, Prod.Lex.toLex_lt_toLex] at notBefore
  rw [Prod.Lex.toLex_le_toLex, Prod.Lex.toLex_le_toLex]
  dsimp only at notBefore ⊢
  by_cases sameRank : rival.tier.rank = hit.tier.rank
  · have early := tie sameRank
    by_cases sameLength : rival.key.length = hit.key.length
    · exact .inr ⟨sameRank.symm, .inr ⟨sameLength.symm, early⟩⟩
    · exact .inr ⟨sameRank.symm, .inl (by omega)⟩
  · exact .inl (by omega)

end Hit

namespace SearchIndex.Best

/-- What an offer leaves in a table was there before or is the hit offered. -/
theorem mem_offer {hit other : Hit} {best : Best} (isThere : other ∈ Best.offer hit best) :
    other = hit ∨ other ∈ best := by
  induction best with
  | nil => exact .inl (List.mem_singleton.mp isThere)
  | cons first rest inductionHypothesis =>
      unfold Best.offer at isThere
      split at isThere
      · rcases List.mem_cons.mp isThere with rfl | isRest
        · split
          · exact .inl rfl
          · exact .inr List.mem_cons_self
        · exact .inr (List.mem_cons_of_mem _ isRest)
      · rcases List.mem_cons.mp isThere with rfl | isRest
        · exact .inr List.mem_cons_self
        · exact (inductionHypothesis isRest).imp id (List.mem_cons_of_mem _)

/-- An offer keeps the positions of a table and adds its own when it is new. -/
theorem positions_offer (hit : Hit) (best : Best) :
    (Best.offer hit best).map Hit.position =
      if hit.position ∈ best.map Hit.position then best.map Hit.position
      else best.map Hit.position ++ [hit.position] := by
  induction best with
  | nil => rfl
  | cons first rest inductionHypothesis =>
      unfold Best.offer
      by_cases here : first.position = hit.position
      · have isThere : hit.position ∈ (first :: rest).map Hit.position := by
          rw [List.map_cons, here]
          exact List.mem_cons_self
        rw [if_pos (by simpa using here), if_pos isThere, List.map_cons, List.map_cons]
        split
        · rw [here]
        · rfl
      · have others : ¬ hit.position = first.position := fun same => here same.symm
        rw [if_neg (by simpa using here), List.map_cons, inductionHypothesis, List.map_cons]
        by_cases isRest : hit.position ∈ rest.map Hit.position
        · rw [if_pos isRest, if_pos (List.mem_cons_of_mem _ isRest)]
        · rw [if_neg isRest, if_neg (by simpa [others] using isRest)]
          rfl

/-- The hit offered wins its position or meets one there that it does not beat. -/
theorem offered_wins (hit : Hit) (best : Best) :
    hit ∈ Best.offer hit best ∨
      ∃ winner ∈ Best.offer hit best, winner ∈ best ∧ winner.position = hit.position ∧
        hit.before winner = false := by
  induction best with
  | nil => exact .inl (List.mem_singleton.mpr rfl)
  | cons first rest inductionHypothesis =>
      unfold Best.offer
      by_cases here : first.position = hit.position
      · rw [if_pos (by simpa using here)]
        cases better : hit.before first with
        | true => exact .inl List.mem_cons_self
        | false => exact .inr ⟨first, List.mem_cons_self, List.mem_cons_self, here, better⟩
      · rw [if_neg (by simpa using here)]
        rcases inductionHypothesis with isThere | ⟨winner, isThere, isOld, rest⟩
        · exact .inl (List.mem_cons_of_mem _ isThere)
        · exact .inr ⟨winner, List.mem_cons_of_mem _ isThere, List.mem_cons_of_mem _ isOld, rest⟩

/-- A hit of a table stays, or the hit offered beats it. -/
theorem kept_or_beaten (hit : Hit) {best : Best} {other : Hit} (isOld : other ∈ best) :
    other ∈ Best.offer hit best ∨
      hit ∈ Best.offer hit best ∧ hit.position = other.position ∧ hit.before other = true := by
  induction best with
  | nil => exact absurd isOld List.not_mem_nil
  | cons first rest inductionHypothesis =>
      unfold Best.offer
      by_cases here : first.position = hit.position
      · rw [if_pos (by simpa using here)]
        rcases List.mem_cons.mp isOld with rfl | isRest
        · cases better : hit.before other with
          | true => exact .inr ⟨List.mem_cons_self, here.symm, rfl⟩
          | false => exact .inl List.mem_cons_self
        · exact .inl (List.mem_cons_of_mem _ isRest)
      · rw [if_neg (by simpa using here)]
        rcases List.mem_cons.mp isOld with rfl | isRest
        · exact .inl List.mem_cons_self
        · exact (inductionHypothesis isRest).imp (List.mem_cons_of_mem _)
            (And.imp_left (List.mem_cons_of_mem _))

/-- A table holds the best of the hits considered: one for each of their positions, with
a grade that none of them beats. -/
structure IsBestOf (considered : List Hit) (best : Best) : Prop where
  nodup : (best.map Hit.position).Nodup
  made : ∀ hit ∈ best, hit ∈ considered
  least : ∀ rival ∈ considered,
    ∃ hit ∈ best, hit.position = rival.position ∧ hit.grade ≤ rival.grade

/-- No hits have no best ones. -/
theorem isBestOf_nil : IsBestOf [] [] where
  nodup := List.nodup_nil
  made := fun _ absurdity => absurdity
  least := fun _ absurdity => absurd absurdity List.not_mem_nil

/-- Only which hits were considered matters. -/
theorem IsBestOf.congr {considered others : List Hit} {best : Best}
    (isBest : IsBestOf considered best) (same : ∀ hit, hit ∈ considered ↔ hit ∈ others) :
    IsBestOf others best where
  nodup := isBest.nodup
  made := fun hit isThere => (same hit).mp (isBest.made hit isThere)
  least := fun rival isRival => isBest.least rival ((same rival).mpr isRival)

/-- Offering a hit leaves the best of all hits considered, provided that hits of its
position with its tier had no later keys. -/
theorem IsBestOf.offer {considered : List Hit} {best : Best} (isBest : IsBestOf considered best)
    (hit : Hit)
    (inOrder : ∀ old ∈ considered, old.position = hit.position →
      old.tier.rank = hit.tier.rank → old.key ≤ hit.key) :
    IsBestOf (considered ++ [hit]) (Best.offer hit best) where
  nodup := by
    rw [positions_offer]
    split
    · exact isBest.nodup
    · rename_i isNew
      exact isBest.nodup.append (List.nodup_singleton _) (by simpa using isNew)
  made := by
    intro other isThere
    rcases mem_offer isThere with rfl | isOld
    · exact List.mem_append_right _ (List.mem_singleton.mpr rfl)
    · exact List.mem_append_left _ (isBest.made other isOld)
  least := by
    intro rival isRival
    rcases List.mem_append.mp isRival with isOld | isHit
    · obtain ⟨other, isThere, samePosition, better⟩ := isBest.least rival isOld
      rcases kept_or_beaten hit isThere with kept | ⟨isThere, hitPosition, beats⟩
      · exact ⟨other, kept, samePosition, better⟩
      · exact ⟨hit, isThere, hitPosition.trans samePosition,
          le_trans (le_of_lt (Hit.grade_lt_of_before beats hitPosition)) better⟩
    · obtain rfl := List.mem_singleton.mp isHit
      rcases offered_wins rival best with wins | ⟨winner, isThere, isOld, samePosition, notBeaten⟩
      · exact ⟨rival, wins, rfl, le_refl _⟩
      · refine ⟨winner, isThere, samePosition,
          Hit.grade_le_of_not_before notBeaten fun sameRank => ?_⟩
        exact inOrder winner (isBest.made winner isOld) samePosition sameRank.symm

/-- A hit that could not win may be passed over. -/
theorem IsBestOf.passOver {considered : List Hit} {best : Best}
    (isBest : IsBestOf considered best) {hit : Hit}
    (loses : ∃ winner ∈ best, winner.position = hit.position ∧ winner.grade ≤ hit.grade) :
    IsBestOf (considered ++ [hit]) best where
  nodup := isBest.nodup
  made := fun other isThere => List.mem_append_left _ (isBest.made other isThere)
  least := by
    intro rival isRival
    rcases List.mem_append.mp isRival with isOld | isHit
    · exact isBest.least rival isOld
    · rw [List.mem_singleton.mp isHit]
      exact loses

end SearchIndex.Best

end DocAtlas
