import DocAtlas.Proofs.Entity.Documentation
import DocAtlas.Proofs.Tree.SiblingOrder

/-!
# Spanning walks

The relation `Graph.Spans`, rather than the walk with its allowance, is what the
theory of the class forest is about. It says which branches siblings give past the
names claimed, and which names are claimed behind them. A walk over a graph whose
entities are named never fails, never uses its allowance up and gives a span.
-/

namespace DocAtlas

mutual

/-- A branch and all below it, each in front of those below it. -/
def Branch.subtree : Branch → List Branch
  | .mk id below => .mk id below :: Branch.preorder below

/-- The branches of a forest in preorder. -/
def Branch.preorder : List Branch → List Branch
  | [] => []
  | branch :: rest => branch.subtree ++ Branch.preorder rest

end

/-- The entities of a forest in preorder. -/
def Branch.entities (forest : List Branch) : List EntityId :=
  (Branch.preorder forest).map Branch.entity

namespace Branch

/-- A branch stands in front of what is below it, and that in front of what is beside. -/
theorem preorder_cons (id : EntityId) (below rest : List Branch) :
    preorder (.mk id below :: rest) = .mk id below :: (preorder below ++ preorder rest) := by
  simp [preorder, subtree]

@[simp] theorem entities_nil : entities [] = [] := rfl

/-- The entity of a branch stands in front of those below it, and these in front of those beside. -/
@[simp] theorem entities_cons (id : EntityId) (below rest : List Branch) :
    entities (.mk id below :: rest) = id :: (entities below ++ entities rest) := by
  simp [entities, preorder_cons, Branch.entity]

/-- A branch of a forest is met in preorder. -/
theorem mem_preorder_of_mem {branch : Branch} {forest : List Branch} (isTop : branch ∈ forest) :
    branch ∈ preorder forest := by
  induction forest with
  | nil => exact absurd isTop List.not_mem_nil
  | cons first rest inductionHypothesis =>
      obtain ⟨id, below⟩ := first
      rw [preorder_cons]
      rcases List.mem_cons.mp isTop with rfl | isRest
      · exact List.mem_cons_self
      · exact List.mem_cons_of_mem _ (List.mem_append_right _ (inductionHypothesis isRest))

/-- What stands below a branch of a forest stands in the forest. -/
theorem entities_children_subset : (forest : List Branch) → ∀ branch ∈ preorder forest,
    entities branch.children ⊆ entities forest
  | [], branch, isBranch => absurd isBranch List.not_mem_nil
  | .mk id below :: rest, branch, isBranch => by
      rw [preorder_cons] at isBranch
      rw [entities_cons]
      intro other isLower
      apply List.mem_cons_of_mem
      rcases List.mem_cons.mp isBranch with rfl | isBranch
      · exact List.mem_append_left _ isLower
      · rcases List.mem_append.mp isBranch with isBelow | isRest
        · exact List.mem_append_left _ (entities_children_subset below branch isBelow isLower)
        · exact List.mem_append_right _ (entities_children_subset rest branch isRest isLower)

/-- The entity of a branch is one of the forest. -/
theorem mem_entities_of_mem {branch : Branch} {forest : List Branch} (isTop : branch ∈ forest) :
    branch.entity ∈ entities forest :=
  List.mem_map_of_mem (mem_preorder_of_mem isTop)

end Branch

namespace Graph

/-- What siblings, taken in order, give past the names claimed: the branches, and the
names claimed behind them. -/
inductive Spans (graph : Graph) :
    List EntityId → List String → List Branch → List String → Prop where
  | done {claimed} : Spans graph [] claimed [] claimed
  | passed {id rest claimed branches after}
      (isClaimed : graph.fullName id ∈ claimed)
      (others : Spans graph rest claimed branches after) :
      Spans graph (id :: rest) claimed branches after
  | taken {id rest claimed chosen below middle branches after}
      (isNew : graph.fullName id ∉ claimed)
      (level : graph.levelOrder (graph.nested id) (graph.fullName id :: claimed) = .ok chosen)
      (inner : Spans graph chosen (graph.fullName id :: claimed) below middle)
      (others : Spans graph rest middle branches after) :
      Spans graph (id :: rest) claimed (.mk id below :: branches) after

/-- The names claimed behind a span are those before it and those of its entities. -/
theorem Spans.mem_after {graph : Graph} {siblings : List EntityId}
    {claimed after : List String} {branches : List Branch}
    (spans : graph.Spans siblings claimed branches after) {name : String} :
    name ∈ after ↔ name ∈ claimed ∨ name ∈ (Branch.entities branches).map graph.fullName := by
  induction spans with
  | done => simp
  | passed _ _ inductionHypothesis => exact inductionHypothesis
  | taken _ _ _ _ inner others =>
      rw [others, inner]
      simp only [List.mem_cons, Branch.entities_cons, List.map_cons, List.map_append,
        List.mem_append, or_assoc]
      exact or_left_comm

/-- Names that are claimed stay claimed. -/
theorem Spans.subset {graph : Graph} {siblings : List EntityId}
    {claimed after : List String} {branches : List Branch}
    (spans : graph.Spans siblings claimed branches after) : claimed ⊆ after :=
  fun _ isClaimed => spans.mem_after.mpr (.inl isClaimed)

/-- Every place of a graph holds a named entity, and children have places. -/
structure IsOrderly (graph : Graph) : Prop where
  named : ∀ id, id < graph.size → graph.IsNamed id
  children_lt : ∀ id child, child ∈ (graph.entity id).children → child < graph.size

/-- What is nested in an orderly graph is a place of it. -/
theorem IsOrderly.nested_lt {graph : Graph} (orderly : graph.IsOrderly) {id child : EntityId}
    (isNested : child ∈ graph.nested id) : child < graph.size :=
  orderly.children_lt id child (contains_iff.mp isNested).1

/-- What is nested in an orderly graph is named. -/
theorem IsOrderly.nested_named {graph : Graph} (orderly : graph.IsOrderly) (id : EntityId) :
    ∀ child ∈ graph.nested id, graph.IsNamed child :=
  fun child isNested => orderly.named child (orderly.nested_lt isNested)

/-- A walk that spans siblings past the names claimed and meets no failure. -/
structure Walked (graph : Graph) (siblings : List EntityId) (claimed : List String)
    (walk : Walk) : Prop where
  spans : graph.Spans siblings claimed walk.branches walk.claimed
  unfailing : firstFailure? walk.remarks = none

/-- Siblings are walked in order when each descent walks its level. -/
theorem takeSiblings_walked {graph : Graph} {descend : EntityId → List String → Option Walk}
    {inside : EntityId → Prop} {start : List String}
    (descends : ∀ id claimed, inside id → start ⊆ claimed → graph.fullName id ∉ claimed →
      ∃ walk chosen, descend id (graph.fullName id :: claimed) = some walk ∧
        graph.levelOrder (graph.nested id) (graph.fullName id :: claimed) = .ok chosen ∧
        graph.Walked chosen (graph.fullName id :: claimed) walk) :
    ∀ siblings claimed, (∀ id ∈ siblings, inside id) → start ⊆ claimed →
      ∃ walk, graph.takeSiblings descend siblings claimed = some walk ∧
        graph.Walked siblings claimed walk := by
  intro siblings
  induction siblings with
  | nil => exact fun claimed _ _ => ⟨⟨[], claimed, []⟩, rfl, .done, rfl⟩
  | cons id rest inductionHypothesis =>
      intro claimed areInside grown
      rw [List.forall_mem_cons] at areInside
      unfold takeSiblings
      by_cases isClaimed : graph.fullName id ∈ claimed
      · obtain ⟨walk, answer, walked⟩ := inductionHypothesis claimed areInside.2 grown
        refine ⟨{ walk with remarks := .claimed (graph.fullName id) :: walk.remarks }, ?_,
          .passed isClaimed walked.spans, walked.unfailing⟩
        simp [isClaimed, answer]
      · obtain ⟨below, chosen, inner, level, innerWalked⟩ :=
          descends id claimed areInside.1 grown isClaimed
        have grownOn : start ⊆ below.claimed := fun name isStart =>
          innerWalked.spans.subset (List.mem_cons_of_mem _ (grown isStart))
        obtain ⟨walk, answer, walked⟩ := inductionHypothesis below.claimed areInside.2 grownOn
        refine ⟨⟨.mk id below.branches :: walk.branches, walk.claimed,
          below.remarks ++ walk.remarks⟩, ?_,
          .taken isClaimed level innerWalked.spans walked.spans, ?_⟩
        · simp [isClaimed, inner, answer]
        · have innerUnfailing := innerWalked.unfailing
          have unfailing := walked.unfailing
          unfold firstFailure? at innerUnfailing unfailing ⊢
          rw [List.findSome?_append, innerUnfailing, unfailing]
          rfl

/-- An allowance above the number of unclaimed names, out of a stock that holds all names the
walk can meet, is never used up. -/
theorem walkLevel_walked {graph : Graph} {inside : EntityId → Prop}
    (closed : ∀ parent child, inside parent → graph.Contains parent child → inside child)
    (named : ∀ id, inside id → graph.IsNamed id) {names : Finset String}
    (covered : ∀ id, inside id → graph.fullName id ∈ names) :
    ∀ allowance candidates claimed, (∀ id ∈ candidates, inside id) →
      unmet names claimed < allowance →
      ∃ walk chosen, graph.walkLevel allowance candidates claimed = some walk ∧
        graph.levelOrder candidates claimed = .ok chosen ∧ graph.Walked chosen claimed walk := by
  intro allowance
  induction allowance with
  | zero => exact fun _ _ _ enough => absurd enough (Nat.not_lt_zero _)
  | succ allowance inductionHypothesis =>
      intro candidates claimed areInside enough
      have candidatesNamed : ∀ id ∈ candidates, graph.IsNamed id :=
        fun id isCandidate => named id (areInside id isCandidate)
      have level := levelOrder_of_named claimed candidatesNamed
      have descends : ∀ id later, inside id → claimed ⊆ later →
          graph.fullName id ∉ later →
          ∃ walk chosen, graph.walkLevel allowance (graph.nested id)
              (graph.fullName id :: later) = some walk ∧
            graph.levelOrder (graph.nested id) (graph.fullName id :: later) = .ok chosen ∧
            graph.Walked chosen (graph.fullName id :: later) walk := by
        intro id later isInside grown isNew
        have fewer := unmet_cons_lt (covered id isInside) isNew
        have noMore := @unmet_le_of_subset names _ _ grown
        exact inductionHypothesis _ _ (fun child contains => closed id child isInside contains)
          (by omega)
      have chosenInside : ∀ id ∈ (graph.eligible candidates claimed).mergeSort
          (Sorting.mayPrecede graph.isSiblingBefore), inside id := fun id isChosen =>
        areInside id ((mem_levelOrder candidatesNamed level).mp isChosen).1
      obtain ⟨walk, answer, walked⟩ :=
        takeSiblings_walked descends _ claimed chosenInside (List.Subset.refl _)
      refine ⟨walk, _, ?_, level, walked⟩
      unfold walkLevel
      rw [level]
      exact answer

/-- The walk over the top entities of an orderly graph spans them. -/
theorem walk_walked {graph : Graph} (orderly : graph.IsOrderly) {classes : List EntityId}
    (arePlaces : ∀ id ∈ classes, id < graph.size) :
    ∃ chosen, graph.levelOrder (graph.roots classes) [] = .ok chosen ∧
      graph.Walked chosen [] (graph.walk classes) := by
  have bound := graph.unseen_nil_le
  have rootPlaces : ∀ id ∈ graph.roots classes, id < graph.size :=
    fun id isRoot => arePlaces id (List.mem_filter.mp isRoot).1
  obtain ⟨walk, chosen, answer, level, walked⟩ :=
    walkLevel_walked (fun _ _ _ contains => orderly.nested_lt contains) orderly.named
      (fun id _ => graph.fullName_mem_stock id) (graph.size + 2) _ [] rootPlaces
      (Nat.lt_succ_of_le bound)
  refine ⟨chosen, level, ?_⟩
  unfold Graph.walk
  rw [answer]
  exact walked

/-- The nodes of an orderly graph are those of its walk. -/
theorem classTree_of_orderly {graph : Graph} (orderly : graph.IsOrderly)
    {classes : List EntityId} (arePlaces : ∀ id ∈ classes, id < graph.size) :
    graph.classTree classes = .ok (graph.toNodes (graph.walk classes).branches) := by
  obtain ⟨chosen, level, walked⟩ := walk_walked orderly arePlaces
  unfold classTree
  simp only [walked.unfailing]

end Graph

end DocAtlas
