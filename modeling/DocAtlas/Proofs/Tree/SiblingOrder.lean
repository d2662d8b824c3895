import DocAtlas.Tree.ClassForest
import Mathlib.Data.List.Sort
import Mathlib.Data.Prod.Lex
import Mathlib.Data.String.Basic

/-!
# Order of siblings

Siblings whose names are texts are ordered by a key: the name, and the full name
among equal names. This module shows that the sort of a level is the sort by that
key, which holds exactly the candidates that a level takes up.
-/

namespace DocAtlas.Graph

/-- The key that siblings are sorted by. -/
def siblingKey (graph : Graph) (id : EntityId) : String ×ₗ String :=
  toLex ((graph.entity id).name.display, graph.fullName id)

/-- The names of an entity are texts, and its full name is not empty. -/
structure IsNamed (graph : Graph) (id : EntityId) : Prop where
  name : ∃ name, (graph.entity id).name = .text name
  fullName : graph.fullName id ≠ ""

/-- Equal keys come from equal full names. -/
theorem fullName_eq_of_siblingKey_eq {graph other : Graph} {left right : EntityId}
    (same : graph.siblingKey left = other.siblingKey right) :
    graph.fullName left = other.fullName right :=
  (Prod.ext_iff.mp (toLex.injective same)).2

/-- Named siblings compare by their keys. -/
theorem isSiblingBefore_eq {graph : Graph} {left right : EntityId}
    (leftNamed : graph.IsNamed left) (rightNamed : graph.IsNamed right) :
    graph.isSiblingBefore left right =
      .ok (decide (graph.siblingKey left < graph.siblingKey right)) := by
  obtain ⟨leftName, leftText⟩ := leftNamed.name
  obtain ⟨rightName, rightText⟩ := rightNamed.name
  unfold isSiblingBefore compareSiblings siblingKey fullName
  simp only [leftText, rightText, Value.same, Value.compareBefore, Value.display_text,
    Prod.Lex.toLex_lt_toLex, beq_iff_eq]
  by_cases same : leftName = rightName
  · subst same
    by_cases before : (graph.entity left).fullName < (graph.entity right).fullName
    · simp only [before, if_true, Value.Comparison.checked, true_and, or_true, decide_true]
    · simp only [before, if_true, if_false, Value.Comparison.checked, and_false, or_false,
        String.lt_irrefl, decide_false]
  · by_cases before : leftName < rightName
    · simp only [same, before, if_true, if_false, Value.Comparison.checked, true_or, decide_true]
    · simp only [same, before, if_false, Value.Comparison.checked, false_and, or_false,
        decide_false]

/-- Of two named siblings the one with the lower key may stand in front. -/
theorem mayPrecede_eq {graph : Graph} {left right : EntityId}
    (leftNamed : graph.IsNamed left) (rightNamed : graph.IsNamed right) :
    Sorting.mayPrecede graph.isSiblingBefore left right =
      decide (graph.siblingKey left ≤ graph.siblingKey right) := by
  unfold Sorting.mayPrecede
  rw [isSiblingBefore_eq rightNamed leftNamed]
  by_cases behind : graph.siblingKey right < graph.siblingKey left
  · simp only [behind, decide_true, not_le_of_gt behind, decide_false]
  · simp only [behind, decide_false, le_of_not_gt behind, decide_true]

/-- A level takes up the candidates that are unclaimed and have documentation. -/
theorem mem_eligible {graph : Graph} {candidates : List EntityId} {claimed : List String}
    {id : EntityId} :
    id ∈ graph.eligible candidates claimed ↔
      id ∈ candidates ∧ graph.fullName id ∉ claimed ∧ graph.hasDocumentation id = true := by
  simp [eligible]

/-- A level of named candidates is made by sorting those that it takes up. -/
theorem levelOrder_of_named {graph : Graph} {candidates : List EntityId}
    (claimed : List String) (named : ∀ id ∈ candidates, graph.IsNamed id) :
    graph.levelOrder candidates claimed =
      .ok ((graph.eligible candidates claimed).mergeSort
        (Sorting.mayPrecede graph.isSiblingBefore)) := by
  have allKeyed : (candidates.find? fun id => graph.fullName id = "") = none := by
    rw [List.find?_eq_none]
    intro id isCandidate
    simpa using (named id isCandidate).fullName
  have allText : ((graph.eligible candidates claimed).all
      fun id => ((graph.entity id).name).isText) = true := by
    rw [List.all_eq_true]
    intro id isEligible
    obtain ⟨name, text⟩ := (named id (mem_eligible.mp isEligible).1).name
    rw [text]
    rfl
  unfold levelOrder Sorting.sortKeyed
  rw [allKeyed]
  simp only [allText, if_true]
  rfl

/-- What a level of named candidates takes up, and in which order. -/
theorem levelOrder_spec {graph : Graph} {candidates chosen : List EntityId}
    {claimed : List String} (named : ∀ id ∈ candidates, graph.IsNamed id)
    (level : graph.levelOrder candidates claimed = .ok chosen) :
    chosen.Perm (graph.eligible candidates claimed) ∧
      (chosen.map graph.siblingKey).Pairwise (· ≤ ·) := by
  rw [levelOrder_of_named claimed named] at level
  cases level
  refine ⟨List.mergeSort_perm _ _, ?_⟩
  have keyed : ∀ left ∈ graph.eligible candidates claimed,
      ∀ right ∈ graph.eligible candidates claimed,
      Sorting.mayPrecede graph.isSiblingBefore left right =
        decide (graph.siblingKey left ≤ graph.siblingKey right) :=
    fun left isLeft right isRight => mayPrecede_eq (named left (mem_eligible.mp isLeft).1)
      (named right (mem_eligible.mp isRight).1)
  have sameOrder : ((graph.eligible candidates claimed).mergeSort
      (Sorting.mayPrecede graph.isSiblingBefore)).map graph.siblingKey =
        ((graph.eligible candidates claimed).map graph.siblingKey).mergeSort (· ≤ ·) :=
    List.map_mergeSort keyed
  rw [sameOrder]
  exact List.pairwise_mergeSort' (· ≤ ·) _

/-- A level has the candidates with documentation whose names are not claimed. -/
theorem mem_levelOrder {graph : Graph} {candidates chosen : List EntityId}
    {claimed : List String} (named : ∀ id ∈ candidates, graph.IsNamed id)
    (level : graph.levelOrder candidates claimed = .ok chosen) {id : EntityId} :
    id ∈ chosen ↔
      id ∈ candidates ∧ graph.fullName id ∉ claimed ∧ graph.hasDocumentation id = true :=
  (levelOrder_spec named level).1.mem_iff.trans mem_eligible

/-- Where full names tell the candidates apart, a level is strictly increasing. -/
theorem levelOrder_strict {graph : Graph} {candidates chosen : List EntityId}
    {claimed : List String} (named : ∀ id ∈ candidates, graph.IsNamed id)
    (distinct : (candidates.map graph.fullName).Nodup)
    (level : graph.levelOrder candidates claimed = .ok chosen) :
    (chosen.map graph.siblingKey).Pairwise (· < ·) := by
  obtain ⟨perm, sorted⟩ := levelOrder_spec named level
  have chosenDistinct : (chosen.map graph.fullName).Nodup :=
    (perm.map graph.fullName).nodup_iff.mpr
      (distinct.sublist (List.Sublist.map graph.fullName List.filter_sublist))
  rw [List.pairwise_map] at sorted ⊢
  rw [List.nodup_iff_pairwise_ne, List.pairwise_map] at chosenDistinct
  refine (sorted.and chosenDistinct).imp fun {left right} both => ?_
  exact lt_of_le_of_ne both.1 fun same => both.2 (fullName_eq_of_siblingKey_eq same)

end DocAtlas.Graph
