import DocAtlas.Manifest
import DocAtlas.Proofs.Entity.Containment
import Mathlib.Data.Fintype.Card

/-!
# Ancestry

The way up from an entity follows parent links, of which there is one at most. This
module shows that the check for cycles finds an entity exactly when its way up leads
back to it, and that a way up which loops elsewhere is no fault of the entity. The names
that the check reports are those on the way, each once.
-/

namespace DocAtlas.Manifest

/-- The entities on a way up, the first and the last included. -/
inductive PathUp (graph : Graph) (goal : EntityId) : EntityId → List EntityId → Prop where
  | here : PathUp graph goal goal [goal]
  | up {child parent path} (hasParent : graph.HasParent child parent)
      (further : PathUp graph goal parent path) : PathUp graph goal child (child :: path)

/-- A way up can be entered at any of its entities. -/
theorem PathUp.enter {graph : Graph} {goal start id : EntityId} {path : List EntityId}
    (leads : PathUp graph goal start path) (onPath : id ∈ path) :
    ∃ suffix, PathUp graph goal id suffix ∧ suffix.Sublist path := by
  induction leads with
  | here =>
      rw [List.mem_singleton] at onPath
      subst onPath
      exact ⟨[id], .here, .refl _⟩
  | up hasParent further inductionHypothesis =>
      rcases List.mem_cons.mp onPath with rfl | isFurther
      · exact ⟨_, .up hasParent further, .refl _⟩
      · obtain ⟨suffix, leadsOn, shorter⟩ := inductionHypothesis isFurther
        exact ⟨suffix, leadsOn, shorter.cons _⟩

/-- A path up reaches its goal. -/
theorem PathUp.goal_mem {graph : Graph} {goal start : EntityId} {path : List EntityId}
    (leads : PathUp graph goal start path) : goal ∈ path := by
  induction leads with
  | here => exact List.mem_singleton.mpr rfl
  | up _ _ inductionHypothesis => exact List.mem_cons_of_mem _ inductionHypothesis

/-- A path up ends at its goal. -/
theorem PathUp.getLast?_eq {graph : Graph} {goal start : EntityId} {path : List EntityId}
    (leads : PathUp graph goal start path) : path.getLast? = some goal := by
  induction leads with
  | here => rfl
  | up _ further inductionHypothesis =>
      cases further with
      | here => rfl
      | up _ _ => rw [List.getLast?_cons_cons, inductionHypothesis]

/-- Each entity on a way up is the parent of the one before it. -/
theorem PathUp.isChain {graph : Graph} {goal start : EntityId} {path : List EntityId}
    (leads : PathUp graph goal start path) : path.IsChain graph.HasParent := by
  induction leads with
  | here => exact .singleton goal
  | up hasParent further inductionHypothesis =>
      cases further with
      | here => exact List.isChain_cons_cons.mpr ⟨hasParent, inductionHypothesis⟩
      | up _ _ => exact List.isChain_cons_cons.mpr ⟨hasParent, inductionHypothesis⟩

/-- All entities on a way up have a place when its goal has. -/
theorem PathUp.lt_size {graph : Graph} {goal start id : EntityId} {path : List EntityId}
    (leads : PathUp graph goal start path) (isPlace : goal < graph.size) (onPath : id ∈ path) :
    id < graph.size := by
  obtain ⟨suffix, leadsOn, -⟩ := leads.enter onPath
  cases leadsOn with
  | here => exact isPlace
  | up hasParent _ => exact hasParent.lt_size

/-- Whatever lies above an entity is reached on a way that meets no entity twice. -/
theorem exists_nodup_pathUp {graph : Graph} {start goal : EntityId}
    (above : Relation.ReflTransGen graph.HasParent start goal) :
    ∃ path, PathUp graph goal start path ∧ path.Nodup := by
  induction above using Relation.ReflTransGen.head_induction_on with
  | refl => exact ⟨[goal], .here, List.nodup_singleton goal⟩
  | @head child parent hasParent _ inductionHypothesis =>
      obtain ⟨path, leads, nodup⟩ := inductionHypothesis
      by_cases again : child ∈ path
      · obtain ⟨suffix, leadsOn, shorter⟩ := leads.enter again
        exact ⟨suffix, leadsOn, nodup.sublist shorter⟩
      · exact ⟨child :: path, .up hasParent leads, List.nodup_cons.mpr ⟨again, nodup⟩⟩

/-- A chain that is found leads up to its start. -/
theorem chainTo_sound {graph : Graph} {start : EntityId} :
    ∀ {allowance chain current names},
      chainTo graph start allowance chain current = some names →
      Relation.ReflTransGen graph.HasParent current start := by
  intro allowance
  induction allowance with
  | zero => exact fun found => absurd found (by simp [chainTo])
  | succ allowance inductionHypothesis =>
      intro chain current names found
      unfold chainTo at found
      dsimp only at found
      split at found
      · rename_i same
        rw [same]
      · split at found
        · exact absurd found (by simp)
        · split at found
          · rename_i parent hasParent
            exact .head hasParent (inductionHypothesis found)
          · exact absurd found (by simp)

/-- The check fails at the first entity for which it finds a cycle, with the names on it. -/
theorem checkAncestry_eq_error {graph : Graph} {ids : List EntityId} {failure : Failure}
    (fails : checkAncestry graph ids = .error failure) :
    ∃ before id after others, ids = before ++ id :: after ∧
      (∀ other ∈ before, parentCycle? graph other = none) ∧
      parentCycle? graph id = some others ∧
      failure = .fault (.parentCycle (graph.fullName id) others) := by
  induction ids with
  | nil => cases fails
  | cons id rest inductionHypothesis =>
      unfold checkAncestry at fails
      cases found : parentCycle? graph id with
      | some others =>
          rw [found] at fails
          cases fails
          exact ⟨[], id, rest, others, rfl, by simp, found, rfl⟩
      | none =>
          rw [found] at fails
          obtain ⟨before, first, after, others, rfl, noneBefore, isFirst, isFault⟩ :=
            inductionHypothesis fails
          exact ⟨id :: before, first, after, others, rfl,
            List.forall_mem_cons.mpr ⟨found, noneBefore⟩, isFirst, isFault⟩

section Distinct

variable {graph : Graph}
  (distinct : ∀ left right, left < graph.size → right < graph.size →
    graph.fullName left = graph.fullName right → left = right)
include distinct

/-- A way up that meets no entity twice and no name of the chain is followed to its
end. -/
theorem chainTo_of_pathUp {start current : EntityId} {path : List EntityId}
    (isPlace : start < graph.size) (leads : PathUp graph start current path)
    (nodup : path.Nodup) {allowance : Nat} (enough : path.length ≤ allowance)
    {chain : List String}
    (isNew : ∀ id ∈ path, id ≠ start → graph.fullName id ∉ chain) :
    chainTo graph start allowance chain current =
      some (chain ++ path.map graph.fullName) := by
  induction leads generalizing allowance chain with
  | here =>
      obtain ⟨allowance, rfl⟩ := Nat.exists_eq_add_of_le' enough
      simp [chainTo]
  | @up child parent path hasParent further inductionHypothesis =>
      obtain ⟨allowance, rfl⟩ : ∃ less, allowance = less + 1 :=
        Nat.exists_eq_succ_of_ne_zero (by rw [List.length_cons] at enough; omega)
      obtain ⟨notAgain, furtherNodup⟩ := List.nodup_cons.mp nodup
      have notStart : child ≠ start := by
        rintro rfl
        exact notAgain further.goal_mem
      have childNew := isNew child List.mem_cons_self notStart
      have furtherNew : ∀ id ∈ path, id ≠ start →
          graph.fullName id ∉ chain ++ [graph.fullName child] := by
        intro id onPath differs isOld
        rcases List.mem_append.mp isOld with inChain | isChild
        · exact isNew id (List.mem_cons_of_mem _ onPath) differs inChain
        · have idPlace := further.lt_size isPlace onPath
          have same := distinct id child idPlace hasParent.lt_size (List.mem_singleton.mp isChild)
          exact notAgain (same ▸ onPath)
      have further := inductionHypothesis furtherNodup
        (Nat.le_of_succ_le_succ enough) furtherNew
      unfold chainTo
      unfold Graph.HasParent at hasParent
      simp only [notStart, if_false, List.contains_eq_mem, childNew, decide_false,
        Bool.false_eq_true, hasParent, further]
      simp

/-- The cycle that an entity lies on is found as it is climbed, with no entity on it twice. -/
theorem parentCycle?_of_cycle {id : EntityId} (isPlace : id < graph.size)
    (cycle : Relation.TransGen graph.HasParent id id) :
    ∃ parent path, graph.HasParent id parent ∧ PathUp graph id parent path ∧ path.Nodup ∧
      parentCycle? graph id = some (path.map graph.fullName) := by
  obtain ⟨parent, hasParent, above⟩ := Relation.TransGen.head'_iff.mp cycle
  obtain ⟨path, leads, nodup⟩ := exists_nodup_pathUp above
  refine ⟨parent, path, hasParent, leads, nodup, ?_⟩
  have arePlaces : path ⊆ List.range graph.size := fun other onPath =>
    List.mem_range.mpr (leads.lt_size isPlace onPath)
  have bound : path.length ≤ graph.size := by
    simpa using (nodup.subperm arePlaces).length_le
  have isNew : ∀ other ∈ path, other ≠ id → graph.fullName other ∉ [graph.fullName id] := by
    intro other onPath differs isName
    exact differs (distinct other id (leads.lt_size isPlace onPath) isPlace
      (List.mem_singleton.mp isName))
  have found := chainTo_of_pathUp distinct isPlace leads nodup (Nat.le_succ_of_le bound) isNew
  unfold parentCycle?
  rw [hasParent]
  simp [found]

/-- Only an entity above itself lies on a cycle of parent links. -/
theorem parentCycle?_eq_none_iff {id : EntityId} (isPlace : id < graph.size) :
    parentCycle? graph id = none ↔ ¬ Relation.TransGen graph.HasParent id id := by
  constructor
  · intro noCycle cycle
    obtain ⟨parent, path, -, -, -, found⟩ := parentCycle?_of_cycle distinct isPlace cycle
    simp [found] at noCycle
  · intro acyclic
    unfold parentCycle?
    split
    · rename_i parent hasParent
      rw [Option.map_eq_none_iff]
      by_contra found
      obtain ⟨names, found⟩ := Option.ne_none_iff_exists'.mp found
      exact acyclic (.head' hasParent (chainTo_sound found))
    · rfl

/-- The names that are found lead from parent to parent around a cycle, back to its start. -/
theorem parentCycle?_eq_some {id : EntityId} (isPlace : id < graph.size) {others : List String}
    (found : parentCycle? graph id = some others) :
    Relation.TransGen graph.HasParent id id ∧
      ∃ path, (id :: path).IsChain graph.HasParent ∧ path.getLast? = some id ∧ path.Nodup ∧
        (∀ other ∈ path, other < graph.size) ∧ others = path.map graph.fullName := by
  have cycle : Relation.TransGen graph.HasParent id id := by
    by_contra acyclic
    rw [(parentCycle?_eq_none_iff distinct isPlace).mpr acyclic] at found
    cases found
  obtain ⟨parent, path, hasParent, leads, nodup, isFound⟩ :=
    parentCycle?_of_cycle distinct isPlace cycle
  rw [found, Option.some.injEq] at isFound
  exact ⟨cycle, path, (PathUp.up hasParent leads).isChain, leads.getLast?_eq, nodup,
    fun other onPath => leads.lt_size isPlace onPath, isFound⟩

/-- The check accepts entities none of which is above itself. -/
theorem checkAncestry_eq_ok_iff {ids : List EntityId} (arePlaces : ∀ id ∈ ids, id < graph.size) :
    checkAncestry graph ids = .ok () ↔
      ∀ id ∈ ids, ¬ Relation.TransGen graph.HasParent id id := by
  induction ids with
  | nil => simp [checkAncestry, pure, Except.pure]
  | cons id rest inductionHypothesis =>
      rw [List.forall_mem_cons] at arePlaces
      have here := parentCycle?_eq_none_iff distinct arePlaces.1
      rw [List.forall_mem_cons, ← here, ← inductionHypothesis arePlaces.2]
      simp only [checkAncestry]
      cases parentCycle? graph id with
      | none => simp
      | some others => simp [refuse]

end Distinct

end DocAtlas.Manifest
