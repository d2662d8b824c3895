import Mathlib.Data.List.Perm.Basic
import Mathlib.Data.List.Sort

/-!
# Lists in step

Two lists are in step when they are equally long and their items are related place by
place. This module finds the partner of an item, and shows that two lists are in step when
their keys are the same, or when both increase and every item has its partner.
-/

namespace DocAtlas.Pairing

variable {α β : Type} {related : α → β → Prop} {lefts : List α} {rights : List β}

/-- Every item on the left has a partner on the right. -/
theorem exists_right (inStep : List.Forall₂ related lefts rights) {left : α}
    (isLeft : left ∈ lefts) : ∃ right ∈ rights, related left right := by
  induction inStep with
  | nil => exact absurd isLeft List.not_mem_nil
  | cons here _ inductionHypothesis =>
      rcases List.mem_cons.mp isLeft with rfl | isRest
      · exact ⟨_, List.mem_cons_self, here⟩
      · obtain ⟨right, isRight, pair⟩ := inductionHypothesis isRest
        exact ⟨right, List.mem_cons_of_mem _ isRight, pair⟩

/-- Every item on the right has a partner on the left. -/
theorem exists_left (inStep : List.Forall₂ related lefts rights) {right : β}
    (isRight : right ∈ rights) : ∃ left ∈ lefts, related left right :=
  exists_right inStep.flip isRight

/-- Items that each have a partner make a list with one in step with it. -/
theorem exists_forall₂ (havePartners : ∀ left ∈ lefts, ∃ right, related left right) :
    ∃ rights, List.Forall₂ related lefts rights := by
  induction lefts with
  | nil => exact ⟨[], .nil⟩
  | cons left lefts inductionHypothesis =>
      rw [List.forall_mem_cons] at havePartners
      obtain ⟨right, pair⟩ := havePartners.1
      obtain ⟨rights, inStep⟩ := inductionHypothesis havePartners.2
      exact ⟨right :: rights, .cons pair inStep⟩

/-- What is picked from the items on the left is what the items on the right are mapped to. -/
theorem filterMap_eq_map {γ : Type} {pick : α → Option γ} {key : β → γ}
    (inStep : List.Forall₂ related lefts rights)
    (picks : ∀ left right, left ∈ lefts → related left right → pick left = some (key right)) :
    lefts.filterMap pick = rights.map key := by
  induction inStep with
  | nil => rfl
  | cons pair _ inductionHypothesis =>
      rw [List.filterMap_cons_some (picks _ _ List.mem_cons_self pair), List.map_cons,
        inductionHypothesis fun left right isLeft =>
          picks left right (List.mem_cons_of_mem _ isLeft)]

/-- Partners that are kept together leave lists in step. -/
theorem filter {keep : α → Bool} {otherKeep : β → Bool}
    (inStep : List.Forall₂ related lefts rights)
    (together : ∀ left right, left ∈ lefts → related left right → keep left = otherKeep right) :
    List.Forall₂ related (lefts.filter keep) (rights.filter otherKeep) := by
  induction inStep with
  | nil => exact .nil
  | cons pair _ inductionHypothesis =>
      have others := inductionHypothesis fun left right isLeft =>
        together left right (List.mem_cons_of_mem _ isLeft)
      rw [List.filter_cons, List.filter_cons, together _ _ List.mem_cons_self pair]
      split
      · exact .cons pair others
      · exact others

/-- A permutation in front of lists in step may be made behind them. -/
theorem perm_behind {middle : List α} (perm : lefts.Perm middle)
    (inStep : List.Forall₂ related middle rights) :
    ∃ others, List.Forall₂ related lefts others ∧ others.Perm rights := by
  have composed : Relation.Comp List.Perm (List.Forall₂ related) lefts rights :=
    ⟨middle, perm, inStep⟩
  rw [← List.forall₂_comp_perm_eq_perm_comp_forall₂] at composed
  exact composed

/-- A permutation behind lists in step may be made in front of them. -/
theorem perm_in_front {middle : List β} (inStep : List.Forall₂ related lefts middle)
    (perm : middle.Perm rights) :
    ∃ others, lefts.Perm others ∧ List.Forall₂ related others rights := by
  have composed : Relation.Comp (List.Forall₂ related) List.Perm lefts rights :=
    ⟨middle, inStep, perm⟩
  rw [List.forall₂_comp_perm_eq_perm_comp_forall₂] at composed
  exact composed

/-- Lists that are in step with a third one are in step when the relations compose. -/
theorem trans {γ : Type} {further : β → γ → Prop} {composed : α → γ → Prop} {others : List γ}
    (compose : ∀ left right other, related left right → further right other →
      composed left other)
    (inStep : List.Forall₂ related lefts rights)
    (inFurtherStep : List.Forall₂ further rights others) :
    List.Forall₂ composed lefts others := by
  induction inStep generalizing others with
  | nil =>
      cases inFurtherStep
      exact .nil
  | cons here _ inductionHypothesis =>
      cases inFurtherStep with
      | cons there inFurtherStep =>
          exact .cons (compose _ _ _ here there) (inductionHypothesis inFurtherStep)

/-- Partners are items of their lists. -/
theorem with_mem (inStep : List.Forall₂ related lefts rights) :
    List.Forall₂ (fun left right => left ∈ lefts ∧ right ∈ rights ∧ related left right)
      lefts rights := by
  induction inStep with
  | nil => exact .nil
  | cons pair _ inductionHypothesis =>
      refine .cons ⟨List.mem_cons_self, List.mem_cons_self, pair⟩ ?_
      refine inductionHypothesis.imp fun left right both => ?_
      exact ⟨List.mem_cons_of_mem _ both.1, List.mem_cons_of_mem _ both.2.1, both.2.2⟩

/-- Lists are in step when their items have equal keys place by place. -/
theorem forall₂_of_map_eq {κ : Type} {key : α → κ} {otherKey : β → κ}
    (same : lefts.map key = rights.map otherKey) :
    List.Forall₂ (fun left right => left ∈ lefts ∧ right ∈ rights ∧ key left = otherKey right)
      lefts rights := by
  rw [← List.forall₂_eq_eq_eq, List.forall₂_map_left_iff, List.forall₂_map_right_iff] at same
  exact with_mem same

/-- Partners on both sides, in lists that increase strictly by the keys that partners share,
stand place by place. -/
theorem forall₂_of_increasing {κ : Type} [LinearOrder κ] {key : α → κ} {otherKey : β → κ}
    (increasing : (lefts.map key).Pairwise (· < ·))
    (otherIncreasing : (rights.map otherKey).Pairwise (· < ·))
    (sameKey : ∀ left ∈ lefts, ∀ right, related left right → key left = otherKey right)
    (forth : ∀ left ∈ lefts, ∃ right ∈ rights, related left right)
    (back : ∀ right ∈ rights, ∃ left ∈ lefts, related left right) :
    List.Forall₂ related lefts rights := by
  have sameKeys : lefts.map key = rights.map otherKey := by
    refine List.Subset.antisymm_of_pairwise increasing otherIncreasing ?_ ?_
    · intro shared isKey
      obtain ⟨left, isLeft, rfl⟩ := List.mem_map.mp isKey
      obtain ⟨right, isRight, pair⟩ := forth left isLeft
      exact List.mem_map.mpr ⟨right, isRight, (sameKey left isLeft right pair).symm⟩
    · intro shared isKey
      obtain ⟨right, isRight, rfl⟩ := List.mem_map.mp isKey
      obtain ⟨left, isLeft, pair⟩ := back right isRight
      exact List.mem_map.mpr ⟨left, isLeft, sameKey left isLeft right pair⟩
  have distinct : (rights.map otherKey).Nodup := otherIncreasing.imp ne_of_lt
  refine (forall₂_of_map_eq sameKeys).imp fun left right both => ?_
  obtain ⟨isLeft, isRight, same⟩ := both
  obtain ⟨partner, isPartner, pair⟩ := forth left isLeft
  rw [List.inj_on_of_nodup_map distinct isRight isPartner
    (same.symm.trans (sameKey left isLeft partner pair))]
  exact pair

end DocAtlas.Pairing
