import DocAtlas.Proofs.Tree.Coverage

/-!
# Placement in the class forest

Of several containers the first one that is walked keeps a member. A candidate that a
level takes up stands at the top of the level, unless a sibling with a smaller key has
claimed it below itself by then. A member that a level does not take up was claimed
before its container was left, so it stands in front of it.
-/

namespace DocAtlas

namespace Graph

/-- The entities of branches increase strictly by their sibling keys. -/
def IsIncreasing (graph : Graph) (branches : List Branch) : Prop :=
  (branches.map fun branch => graph.siblingKey branch.entity).Pairwise (· < ·)

/-- An entity of a given name stands in front of another entity in preorder. -/
def StandsBefore (graph : Graph) (forest : List Branch) (name : String) (id : EntityId) : Prop :=
  ∃ front back, Branch.entities forest = front ++ id :: back ∧ name ∈ front.map graph.fullName

/-- A candidate has its place among branches: at the top, or below a branch with a
smaller key. -/
def HasPlace (graph : Graph) (branches : List Branch) (id : EntityId) : Prop :=
  ∃ top ∈ branches, graph.fullName top.entity = graph.fullName id ∨
    (graph.siblingKey top.entity < graph.siblingKey id ∧
      graph.fullName id ∈ (Branch.entities top.children).map graph.fullName)

/-- Every unclaimed sibling has its place among the branches of a sorted level. -/
theorem Spans.hasPlace {graph : Graph} {siblings : List EntityId}
    {claimed after : List String} {branches : List Branch}
    (spans : graph.Spans siblings claimed branches after)
    (sorted : (siblings.map graph.siblingKey).Pairwise (· < ·)) :
    ∀ id ∈ siblings, graph.fullName id ∉ claimed → graph.HasPlace branches id := by
  induction spans with
  | done => simp
  | passed isClaimed _ inductionHypothesis =>
      rw [List.map_cons, List.pairwise_cons] at sorted
      exact List.forall_mem_cons.mpr
        ⟨fun isNew => absurd isClaimed isNew, inductionHypothesis sorted.2⟩
  | @taken first rest claimed chosen below middle branches after _ _ inner _ _
      othersHypothesis =>
      rw [List.map_cons, List.pairwise_cons] at sorted
      rw [List.forall_mem_cons]
      refine ⟨fun _ => ⟨.mk first below, List.mem_cons_self, .inl rfl⟩, ?_⟩
      intro id isRest isNew
      by_cases isMiddle : graph.fullName id ∈ middle
      · -- The branch just made has claimed the sibling.
        refine ⟨.mk first below, List.mem_cons_self, ?_⟩
        rcases inner.mem_after.mp isMiddle with isClaimed | isBelow
        · rcases List.mem_cons.mp isClaimed with same | isClaimed
          · exact .inl same.symm
          · exact absurd isClaimed isNew
        · exact .inr ⟨sorted.1 _ (List.mem_map_of_mem isRest), isBelow⟩
      · obtain ⟨top, isTop, place⟩ := othersHypothesis sorted.2 id isRest isMiddle
        exact ⟨top, List.mem_cons_of_mem _ isTop, place⟩

/-- Every level below the entities of a graph is strictly increasing. -/
def LevelsIncrease (graph : Graph) : Prop :=
  ∀ id claimed chosen, graph.levelOrder (graph.nested id) claimed = .ok chosen →
    (chosen.map graph.siblingKey).Pairwise (· < ·)

/-- The branches of a sorted level increase. -/
theorem Spans.isIncreasing {graph : Graph} {siblings : List EntityId}
    {claimed after : List String} {branches : List Branch}
    (spans : graph.Spans siblings claimed branches after)
    (sorted : (siblings.map graph.siblingKey).Pairwise (· < ·)) : graph.IsIncreasing branches := by
  have keys := (spans.sublist.map graph.siblingKey)
  rw [List.map_map] at keys
  exact sorted.sublist keys

/-- So do the branches below every branch of a span. -/
theorem Spans.children_increasing {graph : Graph} (levels : graph.LevelsIncrease)
    {siblings : List EntityId} {claimed after : List String} {branches : List Branch}
    (spans : graph.Spans siblings claimed branches after) :
    ∀ branch ∈ Branch.preorder branches, graph.IsIncreasing branch.children := by
  induction spans with
  | done => simp [Branch.preorder]
  | passed _ _ inductionHypothesis => exact inductionHypothesis
  | @taken id rest claimed chosen below middle branches after _ level inner _ innerHypothesis
      othersHypothesis =>
      rw [Branch.preorder_cons, List.forall_mem_cons, List.forall_mem_append]
      exact ⟨inner.isIncreasing (levels _ _ _ level), innerHypothesis, othersHypothesis⟩

namespace StandsBefore

variable {graph : Graph} {first id : EntityId} {below branches : List Branch} {name : String}

/-- What stands at the head of a branch is in front of everything below it. -/
theorem of_head (isHead : name = graph.fullName first) (isBelow : id ∈ Branch.entities below) :
    graph.StandsBefore (.mk first below :: branches) name id := by
  obtain ⟨front, back, split⟩ := List.append_of_mem isBelow
  refine ⟨first :: front, back ++ Branch.entities branches, ?_, ?_⟩
  · rw [Branch.entities_cons, split]
    simp
  · rw [isHead]
    exact List.mem_cons_self

/-- What stands in the first branch is in front of everything in the others. -/
theorem of_first (isFirst : name ∈ (first :: Branch.entities below).map graph.fullName)
    (isBeside : id ∈ Branch.entities branches) :
    graph.StandsBefore (.mk first below :: branches) name id := by
  obtain ⟨front, back, split⟩ := List.append_of_mem isBeside
  refine ⟨first :: (Branch.entities below ++ front), back, ?_, ?_⟩
  · rw [Branch.entities_cons, split]
    simp
  · rw [← List.cons_append, List.map_append]
    exact List.mem_append_left _ isFirst

/-- What stands in front of an entity below a branch stands in front of it in the forest. -/
theorem deeper (before : graph.StandsBefore below name id) :
    graph.StandsBefore (.mk first below :: branches) name id := by
  obtain ⟨front, back, split, isFront⟩ := before
  refine ⟨first :: front, back ++ Branch.entities branches, ?_, List.mem_cons_of_mem _ isFront⟩
  rw [Branch.entities_cons, split]
  simp

/-- What stands in front of an entity beside a branch stands in front of it in the forest. -/
theorem beside (before : graph.StandsBefore branches name id) :
    graph.StandsBefore (.mk first below :: branches) name id := by
  obtain ⟨front, back, split, isFront⟩ := before
  refine ⟨first :: (Branch.entities below ++ front), back, ?_, ?_⟩
  · rw [Branch.entities_cons, split]
    simp
  · rw [← List.cons_append, List.map_append]
    exact List.mem_append_right _ isFront

end StandsBefore

/-- A member of an entity of a forest is the entity itself, stands in front of it, or
has its place below it. -/
def IsSettled (graph : Graph) (forest : List Branch) (id member : EntityId) : Prop :=
  graph.fullName member = graph.fullName id ∨
    graph.StandsBefore forest (graph.fullName member) id ∨
    ∃ branch ∈ Branch.preorder forest, branch.entity = id ∧
      graph.HasPlace branch.children member

/-- A member that is settled below a branch is settled in the forest. -/
theorem IsSettled.deeper {graph : Graph} {first id member : EntityId}
    {below branches : List Branch} (settled : graph.IsSettled below id member) :
    graph.IsSettled (.mk first below :: branches) id member := by
  rcases settled with same | before | ⟨branch, isBranch, place⟩
  · exact .inl same
  · exact .inr (.inl before.deeper)
  · rw [IsSettled, Branch.preorder_cons]
    exact .inr (.inr ⟨branch, List.mem_cons_of_mem _ (List.mem_append_left _ isBranch), place⟩)

/-- A member that is settled beside a branch is settled in the forest. -/
theorem IsSettled.beside {graph : Graph} {first id member : EntityId}
    {below branches : List Branch} (settled : graph.IsSettled branches id member) :
    graph.IsSettled (.mk first below :: branches) id member := by
  rcases settled with same | before | ⟨branch, isBranch, place⟩
  · exact .inl same
  · exact .inr (.inl before.beside)
  · rw [IsSettled, Branch.preorder_cons]
    exact .inr (.inr ⟨branch, List.mem_cons_of_mem _ (List.mem_append_right _ isBranch), place⟩)

/-- A documented member of an entity of a span is settled unless it was claimed before. -/
theorem Spans.member_settled {graph : Graph} (orderly : graph.IsOrderly)
    (levels : graph.LevelsIncrease) {siblings : List EntityId}
    {claimed after : List String} {branches : List Branch}
    (spans : graph.Spans siblings claimed branches after) :
    ∀ id ∈ Branch.entities branches, ∀ member, graph.Contains id member →
      graph.hasDocumentation member = true →
      graph.fullName member ∈ claimed ∨ graph.IsSettled branches id member := by
  induction spans with
  | done => simp
  | passed _ _ inductionHypothesis => exact inductionHypothesis
  | @taken first rest claimed chosen below middle branches after _ level inner _
      innerHypothesis othersHypothesis =>
      rw [Branch.entities_cons, List.forall_mem_cons, List.forall_mem_append]
      refine ⟨?_, ?_, ?_⟩
      · intro member contains documented
        by_cases isClaimed : graph.fullName member ∈ graph.fullName first :: claimed
        · rcases List.mem_cons.mp isClaimed with same | isClaimed
          · exact .inr (.inl same)
          · exact .inl isClaimed
        · have isChosen := (mem_levelOrder (orderly.nested_named first) level).mpr
            ⟨contains, isClaimed, documented⟩
          have place := inner.hasPlace (levels _ _ _ level) member isChosen isClaimed
          rw [IsSettled, Branch.preorder_cons]
          exact .inr (.inr (.inr ⟨.mk first below, List.mem_cons_self, rfl, place⟩))
      · intro id isBelow member contains documented
        rcases innerHypothesis id isBelow member contains documented with isClaimed | settled
        · rcases List.mem_cons.mp isClaimed with same | isClaimed
          · exact .inr (.inr (.inl (.of_head same isBelow)))
          · exact .inl isClaimed
        · exact .inr settled.deeper
      · intro id isBeside member contains documented
        rcases othersHypothesis id isBeside member contains documented with isMiddle | settled
        · -- The name was claimed before the first branch or by it.
          rcases inner.mem_after.mp isMiddle with isHead | isBelow
          · rcases List.mem_cons.mp isHead with same | isClaimed
            · exact .inr (.inr (.inl (.of_first (List.mem_cons.mpr (.inl same)) isBeside)))
            · exact .inl isClaimed
          · exact .inr (.inr (.inl (.of_first (List.mem_cons_of_mem _ isBelow) isBeside)))
        · exact .inr settled.beside

/-- An entity stands at the top of branches, or below one of them with a smaller key. -/
def StandsAmong (graph : Graph) (branches : List Branch) (id : EntityId) : Prop :=
  ∃ top ∈ branches, top.entity = id ∨
    (graph.siblingKey top.entity < graph.siblingKey id ∧ id ∈ Branch.entities top.children)

end Graph

namespace Collection.IsLinked

variable {collection : Collection} (linked : collection.IsLinked)
include linked

/-- Names tell the members of an entity apart, so every level is strictly increasing. -/
theorem levelsIncrease : collection.graph.LevelsIncrease := fun id _ _ level =>
  Graph.levelOrder_strict (linked.orderly.nested_named id)
    (linked.nodup_fullNames (fun _ isNested => linked.orderly.nested_lt isNested)
      (linked.nodup_nested id)) level

/-- The keys of the roots increase strictly. -/
theorem roots_increase {chosen : List EntityId}
    (level : collection.graph.levelOrder (collection.graph.roots collection.classes) [] =
      .ok chosen) : (chosen.map collection.graph.siblingKey).Pairwise (· < ·) :=
  Graph.levelOrder_strict linked.roots_named
    (linked.nodup_fullNames (fun _ isRoot => linked.class_lt (Graph.mem_roots.mp isRoot).1)
      linked.nodup_roots) level

/-- Siblings increase strictly at every level of the forest. -/
theorem forest_increasing :
    collection.graph.IsIncreasing collection.forest ∧
      ∀ branch ∈ Branch.preorder collection.forest,
        collection.graph.IsIncreasing branch.children := by
  obtain ⟨chosen, after, level, spans⟩ := linked.forest_spans
  exact ⟨spans.isIncreasing (linked.roots_increase level),
    spans.children_increasing linked.levelsIncrease⟩

/-- Among entities with places, names say which entity has its place. -/
theorem standsAmong_of_hasPlace {branches : List Branch}
    (arePlaces : ∀ id ∈ Branch.entities branches, id < collection.graph.size) {id : EntityId}
    (isPlace : id < collection.graph.size) (placed : collection.graph.HasPlace branches id) :
    collection.graph.StandsAmong branches id := by
  obtain ⟨top, isTop, here | ⟨smaller, isLower⟩⟩ := placed
  · have topPlace := arePlaces _ (Branch.mem_entities_of_mem isTop)
    exact ⟨top, isTop, .inl (linked.distinct _ _ topPlace isPlace here)⟩
  · obtain ⟨other, isOther, same⟩ := List.mem_map.mp isLower
    have otherPlace := arePlaces other
      (Branch.entities_children_subset branches top (Branch.mem_preorder_of_mem isTop) isOther)
    rw [linked.distinct _ _ otherPlace isPlace same] at isOther
    exact ⟨top, isTop, .inr ⟨smaller, isOther⟩⟩

/-- The entities of the forest are places of the graph. -/
theorem forest_places : ∀ id ∈ Branch.entities collection.forest, id < collection.graph.size :=
  fun _ isShown => linked.class_lt (linked.forest_entities isShown).1

/-- A documented root stands at the top, or below a root with a smaller key. -/
theorem root_standsAmong {id : EntityId}
    (isRoot : id ∈ collection.graph.roots collection.classes)
    (documented : collection.graph.hasDocumentation id = true) :
    collection.graph.StandsAmong collection.forest id := by
  obtain ⟨chosen, after, level, spans⟩ := linked.forest_spans
  have isChosen := (Graph.mem_levelOrder linked.roots_named level).mpr
    ⟨isRoot, List.not_mem_nil, documented⟩
  exact linked.standsAmong_of_hasPlace linked.forest_places
    (linked.class_lt (Graph.mem_roots.mp isRoot).1)
    (spans.hasPlace (linked.roots_increase level) id isChosen List.not_mem_nil)

/-- A documented member of a class or module stands in front of it, directly below it,
or further below it behind a smaller key. -/
theorem member_standsAmong {container member : EntityId}
    (isClass : container ∈ collection.classes)
    (contains : collection.graph.Contains container member) (differs : member ≠ container)
    (documented : collection.graph.hasDocumentation member = true) :
    [member, container].Sublist (Branch.entities collection.forest) ∨
      ∃ branch ∈ Branch.preorder collection.forest, branch.entity = container ∧
        collection.graph.StandsAmong branch.children member := by
  obtain ⟨chosen, after, level, spans⟩ := linked.forest_spans
  have isShown := linked.mem_forest.mpr
    ⟨isClass, linked.hasDocumentation_of_contains contains documented⟩
  have memberPlace := linked.orderly.nested_lt contains
  have settled := (spans.member_settled linked.orderly linked.levelsIncrease container isShown
    member contains documented).resolve_left List.not_mem_nil
  rcases settled with same | ⟨front, back, split, isFront⟩ | ⟨branch, isBranch, here, place⟩
  · exact absurd (linked.distinct _ _ memberPlace contains.lt_size same) differs
  · left
    obtain ⟨other, isOther, same⟩ := List.mem_map.mp isFront
    have otherPlace := linked.forest_places other
      (by rw [split]; exact List.mem_append_left _ isOther)
    rw [linked.distinct _ _ otherPlace memberPlace same] at isOther
    rw [split]
    exact (List.singleton_sublist.mpr isOther).append
      (List.singleton_sublist.mpr List.mem_cons_self)
  · right
    refine ⟨branch, isBranch, here, linked.standsAmong_of_hasPlace ?_ memberPlace place⟩
    exact fun id isLower => linked.forest_places id
      (Branch.entities_children_subset _ branch isBranch isLower)

/-- A file contains classes and modules as their parent only, so they are roots. -/
theorem member_mem_roots {file member : EntityId} (isFile : file ∈ collection.files)
    (contains : collection.graph.Contains file member) :
    member ∈ collection.graph.roots collection.classes := by
  have isNoNamespace := ((linked.mem_files file).mp isFile).2
  have hasParent := linked.file_parent member file isNoNamespace (Graph.contains_iff.mp contains).1
  refine Graph.mem_roots.mpr ⟨linked.nested_mem_classes contains, fun parent isParent => ?_⟩
  rw [Graph.HasParent, hasParent] at isParent
  rw [← Option.some.inj isParent]
  exact isNoNamespace

end Collection.IsLinked

end DocAtlas
