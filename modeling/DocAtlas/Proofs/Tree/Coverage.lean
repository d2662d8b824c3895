import DocAtlas.Proofs.Collection.Linked

/-!
# Coverage of the class forest

The forest of a linked collection holds every class and module that has
documentation once, and nothing else. A span is closed: whatever has documentation
and is contained in one of its entities is claimed behind it. Parent links lead
every class up to a root, so nothing is left over.
-/

namespace DocAtlas

namespace Graph

/-- Siblings have been claimed behind their span. -/
theorem Spans.siblings_claimed {graph : Graph} {siblings : List EntityId}
    {claimed after : List String} {branches : List Branch}
    (spans : graph.Spans siblings claimed branches after) :
    ∀ id ∈ siblings, graph.fullName id ∈ after := by
  induction spans with
  | done => simp
  | passed isClaimed others inductionHypothesis =>
      exact List.forall_mem_cons.mpr ⟨others.subset isClaimed, inductionHypothesis⟩
  | taken _ _ inner others _ inductionHypothesis =>
      exact List.forall_mem_cons.mpr
        ⟨others.subset (inner.subset List.mem_cons_self), inductionHypothesis⟩

/-- The names of the entities of a span are distinct and were not claimed before. -/
theorem Spans.nodup {graph : Graph} {siblings : List EntityId}
    {claimed after : List String} {branches : List Branch}
    (spans : graph.Spans siblings claimed branches after) :
    ((Branch.entities branches).map graph.fullName).Nodup ∧
      ∀ name ∈ (Branch.entities branches).map graph.fullName, name ∉ claimed := by
  induction spans with
  | done => simp
  | passed _ _ inductionHypothesis => exact inductionHypothesis
  | @taken id rest claimed chosen below middle branches after isNew _ inner others
      innerHypothesis othersHypothesis =>
      obtain ⟨innerNodup, innerNew⟩ := innerHypothesis
      obtain ⟨othersNodup, othersNew⟩ := othersHypothesis
      simp only [Branch.entities_cons, List.map_cons, List.map_append]
      constructor
      · rw [List.nodup_cons, List.mem_append, List.nodup_append']
        refine ⟨?_, innerNodup, othersNodup, ?_⟩
        · rintro (isBelow | isBeside)
          · exact innerNew _ isBelow List.mem_cons_self
          · exact othersNew _ isBeside (inner.subset List.mem_cons_self)
        · intro name isBelow isBeside
          exact othersNew name isBeside (inner.mem_after.mpr (.inr isBelow))
      · intro name isName
        rcases List.mem_cons.mp isName with rfl | isLower
        · exact isNew
        · intro isClaimed
          rcases List.mem_append.mp isLower with isBelow | isBeside
          · exact innerNew name isBelow (List.mem_cons_of_mem _ isClaimed)
          · exact othersNew name isBeside (inner.subset (List.mem_cons_of_mem _ isClaimed))

/-- What holds of siblings and is handed on to documented members holds of every
entity of their span. -/
theorem Spans.forall_entities {graph : Graph} (orderly : graph.IsOrderly)
    {inside : EntityId → Prop}
    (members : ∀ id child, inside id → graph.Contains id child →
      graph.hasDocumentation child = true → inside child)
    {siblings : List EntityId} {claimed after : List String} {branches : List Branch}
    (spans : graph.Spans siblings claimed branches after)
    (areInside : ∀ id ∈ siblings, inside id) : ∀ id ∈ Branch.entities branches, inside id := by
  induction spans with
  | done => simp
  | passed _ _ inductionHypothesis =>
      exact inductionHypothesis (List.forall_mem_cons.mp areInside).2
  | @taken id rest claimed chosen below middle branches after _ level _ _ innerHypothesis
      othersHypothesis =>
      obtain ⟨isInside, othersInside⟩ := List.forall_mem_cons.mp areInside
      have chosenInside : ∀ child ∈ chosen, inside child := by
        intro child isChosen
        obtain ⟨contains, -, documented⟩ :=
          (mem_levelOrder (orderly.nested_named id) level).mp isChosen
        exact members id child isInside contains documented
      rw [Branch.entities_cons, List.forall_mem_cons, List.forall_mem_append]
      exact ⟨isInside, innerHypothesis chosenInside, othersHypothesis othersInside⟩

/-- Whatever has documentation and is contained in an entity of a span is claimed
behind it. -/
theorem Spans.closed {graph : Graph} (orderly : graph.IsOrderly)
    {siblings : List EntityId} {claimed after : List String} {branches : List Branch}
    (spans : graph.Spans siblings claimed branches after) :
    ∀ id ∈ Branch.entities branches, ∀ child, graph.Contains id child →
      graph.hasDocumentation child = true → graph.fullName child ∈ after := by
  induction spans with
  | done => simp
  | passed _ _ inductionHypothesis => exact inductionHypothesis
  | @taken id rest claimed chosen below middle branches after _ level inner others
      innerHypothesis othersHypothesis =>
      rw [Branch.entities_cons, List.forall_mem_cons, List.forall_mem_append]
      refine ⟨?_, ?_, othersHypothesis⟩
      · intro child contains documented
        apply others.subset
        by_cases isClaimed : graph.fullName child ∈ graph.fullName id :: claimed
        · exact inner.subset isClaimed
        · exact inner.siblings_claimed child
            ((mem_levelOrder (orderly.nested_named id) level).mpr
              ⟨contains, isClaimed, documented⟩)
      · intro other isBelow child contains documented
        exact others.subset (innerHypothesis other isBelow child contains documented)

/-- The top-level branches of a span stand for siblings, in their order. -/
theorem Spans.sublist {graph : Graph} {siblings : List EntityId}
    {claimed after : List String} {branches : List Branch}
    (spans : graph.Spans siblings claimed branches after) :
    (branches.map Branch.entity).Sublist siblings := by
  induction spans with
  | done => exact .slnil
  | passed _ _ inductionHypothesis => exact inductionHypothesis.cons _
  | taken _ _ _ _ _ othersHypothesis => exact othersHypothesis.cons_cons _

/-- Nodes that show the entities of branches, one by one and all the way down: the name,
the path of an entity that is documented, the inheritance label, and below it nodes for
members of the entity. -/
inductive Shows (graph : Graph) : List Node → List Branch → Prop where
  | nil : Shows graph [] []
  | cons {id below name path suffix children nodes branches}
      (itsName : name = (graph.entity id).name)
      (itsPath : path =
        if (graph.entity id).isDocumented then (graph.entity id).path else .text "")
      (itsSuffix : suffix = (graph.entity id).inheritanceLabel)
      (members : ∀ child ∈ below, child.entity ∈ graph.nested id)
      (inner : Shows graph children below)
      (others : Shows graph nodes branches) :
      Shows graph (.entity name path suffix children :: nodes) (.mk id below :: branches)

/-- The nodes of a span show its branches. -/
theorem Spans.shows {graph : Graph} (orderly : graph.IsOrderly)
    {siblings : List EntityId} {claimed after : List String} {branches : List Branch}
    (spans : graph.Spans siblings claimed branches after) :
    graph.Shows (graph.toNodes branches) branches := by
  induction spans with
  | done => exact .nil
  | passed _ _ inductionHypothesis => exact inductionHypothesis
  | @taken id rest claimed chosen below middle branches after _ level inner _ innerHypothesis
      othersHypothesis =>
      have members : ∀ child ∈ below, child.entity ∈ graph.nested id := by
        intro child isBelow
        have isChosen := inner.sublist.subset (List.mem_map_of_mem isBelow)
        exact ((mem_levelOrder (orderly.nested_named id) level).mp isChosen).1
      unfold toNodes toNode
      exact .cons rfl rfl rfl members innerHypothesis othersHypothesis

/-- Top entities are the classes and modules whose parent, if any, is a file. -/
theorem mem_roots {graph : Graph} {classes : List EntityId} {id : EntityId} :
    id ∈ graph.roots classes ↔
      id ∈ classes ∧ ∀ parent, graph.HasParent id parent → graph.isNamespace parent = false := by
  unfold roots HasParent
  rw [List.mem_filter]
  cases (graph.entity id).parent with
  | none => simp
  | some parent => simp

end Graph

namespace Collection

/-- The forest that the classes and modules of a collection are shown by. -/
def forest (collection : Collection) : List Branch :=
  (collection.graph.walk collection.classes).branches

namespace IsLinked

variable {collection : Collection} (linked : collection.IsLinked)
include linked

/-- The forest spans the top entities that have documentation, in order. -/
theorem forest_spans :
    ∃ chosen after,
      collection.graph.levelOrder (collection.graph.roots collection.classes) [] = .ok chosen ∧
        collection.graph.Spans chosen [] collection.forest after := by
  obtain ⟨chosen, level, walked⟩ := Graph.walk_walked linked.orderly
    (fun _ isClass => linked.class_lt isClass)
  exact ⟨chosen, _, level, walked.spans⟩

/-- The roots of a linked collection are named. -/
theorem roots_named :
    ∀ id ∈ collection.graph.roots collection.classes, collection.graph.IsNamed id :=
  fun id isRoot => linked.orderly.named id (linked.class_lt (Graph.mem_roots.mp isRoot).1)

/-- The forest shows classes that have documentation at or below them. -/
theorem forest_entities {id : EntityId} (isShown : id ∈ Branch.entities collection.forest) :
    id ∈ collection.classes ∧ collection.graph.hasDocumentation id = true := by
  obtain ⟨chosen, after, level, spans⟩ := linked.forest_spans
  have members : ∀ parent child,
      (parent ∈ collection.classes ∧ collection.graph.hasDocumentation parent = true) →
      collection.graph.Contains parent child → collection.graph.hasDocumentation child = true →
      child ∈ collection.classes ∧ collection.graph.hasDocumentation child = true :=
    fun _ _ _ contains documented => ⟨linked.nested_mem_classes contains, documented⟩
  refine spans.forall_entities linked.orderly members (fun root isChosen => ?_) id isShown
  obtain ⟨isRoot, -, documented⟩ := (Graph.mem_levelOrder linked.roots_named level).mp isChosen
  exact ⟨(Graph.mem_roots.mp isRoot).1, documented⟩

/-- No entity has two places in the forest. -/
theorem nodup_forest : (Branch.entities collection.forest).Nodup := by
  obtain ⟨chosen, after, -, spans⟩ := linked.forest_spans
  exact List.Nodup.of_map _ spans.nodup.1

/-- An entity whose name is claimed behind the walk has a branch in the forest. -/
theorem mem_forest_of_claimed {chosen : List EntityId} {after : List String}
    (spans : collection.graph.Spans chosen [] collection.forest after)
    {id : EntityId} (isPlace : id < collection.graph.size)
    (isClaimed : collection.graph.fullName id ∈ after) :
    id ∈ Branch.entities collection.forest := by
  rcases spans.mem_after.mp isClaimed with absurdity | isName
  · exact absurd absurdity List.not_mem_nil
  · obtain ⟨other, isShown, same⟩ := List.mem_map.mp isName
    have otherPlace := linked.class_lt (linked.forest_entities isShown).1
    rw [← linked.distinct other id otherPlace isPlace same]
    exact isShown

/-- The forest holds the classes and modules that have documentation. -/
theorem mem_forest {id : EntityId} :
    id ∈ Branch.entities collection.forest ↔
      id ∈ collection.classes ∧ collection.graph.hasDocumentation id = true := by
  refine ⟨linked.forest_entities, fun ⟨isClass, documented⟩ => ?_⟩
  obtain ⟨chosen, after, level, spans⟩ := linked.forest_spans
  have climb : ∀ id, id < collection.graph.size → id ∈ collection.classes →
      collection.graph.hasDocumentation id = true →
      id ∈ Branch.entities collection.forest := by
    -- From a parent with a branch the claim passes to its members.
    refine linked.parent_induction fun id isPlace inductionHypothesis isClass documented => ?_
    apply linked.mem_forest_of_claimed spans isPlace
    by_cases isRoot : id ∈ collection.graph.roots collection.classes
    · apply spans.siblings_claimed
      exact (Graph.mem_levelOrder linked.roots_named level).mpr
        ⟨isRoot, List.not_mem_nil, documented⟩
    · rw [Graph.mem_roots] at isRoot
      push Not at isRoot
      obtain ⟨parent, hasParent, isNamespace⟩ := isRoot isClass
      have contains := linked.contains_of_hasParent ((linked.mem_classes id).mp isClass).2 hasParent
      have parentClass := (linked.mem_classes parent).mpr
        ⟨linked.parent_lt hasParent, by simpa using isNamespace⟩
      have parentShown := inductionHypothesis parent hasParent parentClass
        (linked.hasDocumentation_of_contains contains documented)
      exact spans.closed linked.orderly parent parentShown id contains documented
  exact climb id (linked.class_lt isClass) isClass documented

/-- The nodes of the classes and modules show the forest. -/
theorem classTree_shows :
    ∃ nodes, collection.graph.classTree collection.classes = .ok nodes ∧
      collection.graph.Shows nodes collection.forest := by
  obtain ⟨chosen, after, -, spans⟩ := linked.forest_spans
  exact ⟨_, Graph.classTree_of_orderly linked.orderly (fun _ isClass => linked.class_lt isClass),
    spans.shows linked.orderly⟩

end IsLinked

end Collection

end DocAtlas
