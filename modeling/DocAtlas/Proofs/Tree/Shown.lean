import DocAtlas.Proofs.Pairing
import DocAtlas.Proofs.Tree.Alike
import DocAtlas.Proofs.Tree.Placement

/-!
# Graphs that show the same

Linked collections neither of which shows more than the other have the same documentation,
the same order of siblings and the same class tree. Documentation is handed up along
containment, so whatever lies on the way to a documented entity is shown; that is why the
counterparts of what is shown are shown, and why a root keeps being one.
-/

namespace DocAtlas.Graph

/-- Lists of counterparts, place by place. -/
def InStep (left right : Graph) : List EntityId → List EntityId → Prop :=
  List.Forall₂ (IsCounterpart left right)

/-- What a level takes up is shown. -/
theorem isShown_of_chosen {graph : Graph} {candidates chosen : List EntityId}
    {claimed : List String} (arePlaces : ∀ id ∈ candidates, id < graph.size)
    (named : ∀ id ∈ candidates, graph.IsNamed id)
    (level : graph.levelOrder candidates claimed = .ok chosen) :
    ∀ id ∈ chosen, graph.IsShown id := by
  intro id isChosen
  obtain ⟨isCandidate, -, documented⟩ := (mem_levelOrder named level).mp isChosen
  exact ⟨arePlaces id isCandidate, fun _ => documented⟩

namespace ShowsNoMore

section Contents

variable {left right : Graph} (forward : ShowsNoMore left right) {id other : EntityId}
  (isShown : left.IsShown id) (pair : IsCounterpart left right id other)
include forward isShown pair

/-- What does not look at links reads the same from counterparts. -/
theorem read_eq {α : Type} (read : Entity → α)
    (ignoresLinks : ∀ entity, read entity.unlinked = read entity) :
    read (left.entity id) = read (right.entity other) := by
  rw [← ignoresLinks, forward.unlinked id other isShown pair, ignoresLinks]

/-- Counterparts are namespaces alike. -/
theorem isNamespace_eq : left.isNamespace id = right.isNamespace other :=
  forward.read_eq isShown pair (fun entity => entity.kind.isNamespace) fun _ => rfl

/-- Counterparts stand in the same order among their siblings. -/
theorem siblingKey_eq : left.siblingKey id = right.siblingKey other := by
  unfold Graph.siblingKey
  rw [forward.read_eq isShown pair Entity.name fun _ => rfl, pair.sameName]

end Contents

variable {left right : Collection} (forward : ShowsNoMore left.graph right.graph)
  (leftLinked : left.IsLinked) (rightLinked : right.IsLinked)

section Forth

include forward leftLinked

/-- A documented member of what is shown has a counterpart that is a member. -/
theorem contains_forth {parent otherParent child : EntityId}
    (isShown : left.graph.IsShown parent)
    (pair : IsCounterpart left.graph right.graph parent otherParent)
    (documented : left.graph.hasDocumentation child = true)
    (contains : left.graph.Contains parent child) :
    ∃ otherChild, IsCounterpart left.graph right.graph child otherChild ∧
      right.graph.Contains otherParent otherChild := by
  obtain ⟨isChild, isNamespace⟩ := contains_iff.mp contains
  have childShown : left.graph.IsShown child :=
    ⟨leftLinked.orderly.nested_lt contains, fun _ => documented⟩
  obtain ⟨otherChild, children⟩ := forward.forth child childShown
  refine ⟨otherChild, children, contains_iff.mpr ⟨?_, ?_⟩⟩
  · exact forward.mem_children child otherChild parent otherParent childShown isShown children
      pair isChild
  · rw [← forward.isNamespace_eq childShown children]
    exact isNamespace

include rightLinked

/-- The counterpart of an entity with documentation has documentation. -/
theorem hasDocumentation_forth {id other : EntityId}
    (pair : IsCounterpart left.graph right.graph id other)
    (documented : left.graph.hasDocumentation id = true) :
    right.graph.hasDocumentation other = true := by
  obtain ⟨target, reaches, isDocumented⟩ :=
    (leftLinked.hasDocumentation_iff pair.isPlace).mp documented
  -- Every entity on the way to the documented one has documentation, so it is shown.
  induction reaches using Relation.ReflTransGen.head_induction_on generalizing other with
  | refl =>
      refine (rightLinked.hasDocumentation_iff pair.isOtherPlace).mpr ⟨other, .refl, ?_⟩
      rw [← forward.read_eq ⟨pair.isPlace, fun _ => documented⟩ pair Entity.isDocumented
        fun _ => rfl]
      exact isDocumented
  | @head id middle contains reaches inductionHypothesis =>
      have middleDocumented : left.graph.hasDocumentation middle = true :=
        (leftLinked.hasDocumentation_iff (leftLinked.orderly.nested_lt contains)).mpr
          ⟨target, reaches, isDocumented⟩
      obtain ⟨otherMiddle, middles, otherContains⟩ := forward.contains_forth leftLinked
        ⟨pair.isPlace, fun _ => documented⟩ pair middleDocumented contains
      exact rightLinked.hasDocumentation_of_contains otherContains
        (inductionHypothesis middles middleDocumented)

/-- The counterpart of an entity that is shown is shown. -/
theorem isShown_forth {id other : EntityId} (isShown : left.graph.IsShown id)
    (pair : IsCounterpart left.graph right.graph id other) : right.graph.IsShown other := by
  refine ⟨pair.isOtherPlace, fun isNamespace => ?_⟩
  rw [← forward.isNamespace_eq isShown pair] at isNamespace
  exact forward.hasDocumentation_forth leftLinked rightLinked pair (isShown.2 isNamespace)

/-- What a level takes up has counterparts that the other level takes up. -/
theorem chosen_forth {candidates others chosen otherChosen : List EntityId}
    {claimed : List String} (named : ∀ id ∈ candidates, left.graph.IsNamed id)
    (otherNamed : ∀ other ∈ others, right.graph.IsNamed other)
    (forth : ∀ id ∈ candidates, left.graph.hasDocumentation id = true →
      ∃ other ∈ others, IsCounterpart left.graph right.graph id other)
    (level : left.graph.levelOrder candidates claimed = .ok chosen)
    (otherLevel : right.graph.levelOrder others claimed = .ok otherChosen) :
    ∀ id ∈ chosen, ∃ other ∈ otherChosen, IsCounterpart left.graph right.graph id other := by
  intro id isChosen
  obtain ⟨isCandidate, isNew, documented⟩ := (mem_levelOrder named level).mp isChosen
  obtain ⟨other, isOther, pair⟩ := forth id isCandidate documented
  rw [pair.sameName] at isNew
  exact ⟨other, (mem_levelOrder otherNamed otherLevel).mpr ⟨isOther, isNew,
    forward.hasDocumentation_forth leftLinked rightLinked pair documented⟩, pair⟩

end Forth

section Both

variable (backward : ShowsNoMore right.graph left.graph)
include forward backward leftLinked rightLinked

/-- A root with documentation has a counterpart that is a root: a class or module that
contained this one would have documentation, and so a counterpart above the root. -/
theorem root_forth {id : EntityId} (isRoot : id ∈ left.graph.roots left.classes)
    (documented : left.graph.hasDocumentation id = true) :
    ∃ other ∈ right.graph.roots right.classes,
      IsCounterpart left.graph right.graph id other := by
  obtain ⟨isClass, parents⟩ := mem_roots.mp isRoot
  have isShown : left.graph.IsShown id := ⟨leftLinked.class_lt isClass, fun _ => documented⟩
  obtain ⟨other, pair⟩ := forward.forth id isShown
  have otherShown := forward.isShown_forth leftLinked rightLinked isShown pair
  have otherNamespace : right.graph.isNamespace other = true := by
    rw [← forward.isNamespace_eq isShown pair]
    exact ((leftLinked.mem_classes id).mp isClass).2
  refine ⟨other, mem_roots.mpr ⟨(rightLinked.mem_classes other).mpr
    ⟨pair.isOtherPlace, otherNamespace⟩, fun otherParent otherHasParent => ?_⟩, pair⟩
  by_contra notFile
  have otherContains := rightLinked.contains_of_hasParent otherNamespace otherHasParent
  have parentDocumented := rightLinked.hasDocumentation_of_contains otherContains
    (otherShown.2 otherNamespace)
  have parentShown : right.graph.IsShown otherParent :=
    ⟨otherContains.lt_size, fun _ => parentDocumented⟩
  obtain ⟨parent, parentPair⟩ := backward.forth otherParent parentShown
  have hasParent := backward.hasParent other id otherParent parent otherShown parentShown
    pair.symm parentPair otherHasParent
  rw [backward.isNamespace_eq parentShown parentPair] at notFile
  exact notFile (parents parent hasParent)

/-- Candidates with counterparts on both sides are taken up in step. -/
theorem levelOrder_inStep {candidates others chosen otherChosen : List EntityId}
    {claimed : List String} (named : ∀ id ∈ candidates, left.graph.IsNamed id)
    (otherNamed : ∀ other ∈ others, right.graph.IsNamed other)
    (forth : ∀ id ∈ candidates, left.graph.hasDocumentation id = true →
      ∃ other ∈ others, IsCounterpart left.graph right.graph id other)
    (back : ∀ other ∈ others, right.graph.hasDocumentation other = true →
      ∃ id ∈ candidates, IsCounterpart right.graph left.graph other id)
    (level : left.graph.levelOrder candidates claimed = .ok chosen)
    (otherLevel : right.graph.levelOrder others claimed = .ok otherChosen)
    (increasing : (chosen.map left.graph.siblingKey).Pairwise (· < ·))
    (otherIncreasing : (otherChosen.map right.graph.siblingKey).Pairwise (· < ·)) :
    InStep left.graph right.graph chosen otherChosen := by
  refine Pairing.forall₂_of_increasing increasing otherIncreasing ?_ ?_ ?_
  · intro id isChosen other pair
    obtain ⟨-, -, documented⟩ := (mem_levelOrder named level).mp isChosen
    exact forward.siblingKey_eq ⟨pair.isPlace, fun _ => documented⟩ pair
  · exact forward.chosen_forth leftLinked rightLinked named otherNamed forth level otherLevel
  · intro other isOther
    obtain ⟨id, isChosen, pair⟩ := backward.chosen_forth rightLinked leftLinked otherNamed named
      back otherLevel level other isOther
    exact ⟨id, isChosen, pair.symm⟩

/-- The members that counterparts take up are in step. -/
theorem nested_inStep {id other : EntityId} (isShown : left.graph.IsShown id)
    (pair : IsCounterpart left.graph right.graph id other) {claimed : List String}
    {chosen otherChosen : List EntityId}
    (level : left.graph.levelOrder (left.graph.nested id) claimed = .ok chosen)
    (otherLevel : right.graph.levelOrder (right.graph.nested other) claimed = .ok otherChosen) :
    InStep left.graph right.graph chosen otherChosen := by
  have otherShown := forward.isShown_forth leftLinked rightLinked isShown pair
  refine forward.levelOrder_inStep leftLinked rightLinked backward
    (leftLinked.orderly.nested_named id) (rightLinked.orderly.nested_named other) ?_ ?_ level
    otherLevel (leftLinked.levelsIncrease _ _ _ level)
    (rightLinked.levelsIncrease _ _ _ otherLevel)
  · intro child contains documented
    obtain ⟨otherChild, children, contains⟩ :=
      forward.contains_forth leftLinked isShown pair documented contains
    exact ⟨otherChild, contains, children⟩
  · intro otherChild contains documented
    obtain ⟨child, children, contains⟩ :=
      backward.contains_forth rightLinked otherShown pair.symm documented contains
    exact ⟨child, contains, children⟩

/-- Siblings in step span the same nodes and claim the same names. -/
theorem spans_inStep {siblings otherSiblings : List EntityId}
    {claimed after otherAfter : List String} {branches otherBranches : List Branch}
    (spans : left.graph.Spans siblings claimed branches after)
    (otherSpans : right.graph.Spans otherSiblings claimed otherBranches otherAfter)
    (areShown : ∀ id ∈ siblings, left.graph.IsShown id)
    (inStep : InStep left.graph right.graph siblings otherSiblings) :
    left.graph.toNodes branches = right.graph.toNodes otherBranches ∧ after = otherAfter := by
  induction spans generalizing otherSiblings otherBranches otherAfter with
  | done =>
      cases inStep
      cases otherSpans
      exact ⟨rfl, rfl⟩
  | passed isClaimed _ inductionHypothesis =>
      rw [List.forall_mem_cons] at areShown
      cases inStep with
      | cons pair inStep =>
          cases otherSpans with
          | passed _ otherSpans => exact inductionHypothesis otherSpans areShown.2 inStep
          | taken isNew => exact absurd (pair.sameName ▸ isClaimed) isNew
  | @taken id rest claimed chosen below middle branches after isNew level inner others
      innerHypothesis othersHypothesis =>
      rw [List.forall_mem_cons] at areShown
      obtain ⟨isShown, othersShown⟩ := areShown
      cases inStep with
      | @cons _ other _ otherRest pair inStep =>
          cases otherSpans with
          | passed isClaimed => exact absurd isClaimed (pair.sameName ▸ isNew)
          | @taken _ _ _ otherChosen otherBelow otherMiddle otherBranches _ _ otherLevel otherInner
              otherOthers =>
              rw [← pair.sameName] at otherLevel otherInner
              have chosenInStep := forward.nested_inStep leftLinked rightLinked backward isShown
                pair level otherLevel
              have chosenShown := isShown_of_chosen
                (fun _ contains => leftLinked.orderly.nested_lt contains)
                (leftLinked.orderly.nested_named id) level
              obtain ⟨sameBelow, rfl⟩ := innerHypothesis otherInner chosenShown chosenInStep
              obtain ⟨sameBranches, rfl⟩ := othersHypothesis otherOthers othersShown inStep
              refine ⟨?_, rfl⟩
              unfold toNodes toNode
              rw [sameBelow, sameBranches]
              have sameNode := forward.read_eq isShown pair (fun entity : Entity =>
                Node.entity entity.name (if entity.isDocumented then entity.path else .text "")
                  entity.inheritanceLabel (right.graph.toNodes otherBelow)) fun _ => rfl
              exact congrArg (· :: right.graph.toNodes otherBranches) sameNode

/-- Collections that show the same have the same class tree. -/
theorem classTree_eq :
    left.graph.classTree left.classes = right.graph.classTree right.classes := by
  obtain ⟨chosen, after, level, spans⟩ := leftLinked.forest_spans
  obtain ⟨otherChosen, otherAfter, otherLevel, otherSpans⟩ := rightLinked.forest_spans
  have inStep := forward.levelOrder_inStep leftLinked rightLinked backward leftLinked.roots_named
    rightLinked.roots_named
    (fun _ isRoot documented =>
      forward.root_forth leftLinked rightLinked backward isRoot documented)
    (fun _ isRoot documented =>
      backward.root_forth rightLinked leftLinked forward isRoot documented)
    level otherLevel (leftLinked.roots_increase level) (rightLinked.roots_increase otherLevel)
  have areShown := isShown_of_chosen
    (fun _ isRoot => leftLinked.class_lt (mem_roots.mp isRoot).1) leftLinked.roots_named level
  obtain ⟨sameNodes, -⟩ := forward.spans_inStep leftLinked rightLinked backward spans otherSpans
    areShown inStep
  rw [classTree_of_orderly leftLinked.orderly (fun _ isClass => leftLinked.class_lt isClass),
    classTree_of_orderly rightLinked.orderly fun _ isClass => rightLinked.class_lt isClass]
  exact congrArg Except.ok sameNodes

end Both

end ShowsNoMore

end DocAtlas.Graph
