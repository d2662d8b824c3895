import DocAtlas.Proofs.Manifest.Loading
import DocAtlas.Proofs.Tree.Climbing
import DocAtlas.Proofs.Tree.Coverage
import Mathlib.Data.List.Permutation

/-!
# Open branches

The forest shows a class or module under the first container that is walked, but its keys
follow parent links. The two meet exactly where every entity on the branch stands under its
own parent, so the keys of an entity that an alias has carried elsewhere do not open its
branch.
-/

namespace DocAtlas

namespace Branch

/-- The entities on the branch down to an entity of a forest, from the top. -/
inductive LeadsTo : List Branch → EntityId → List EntityId → Prop where
  | here {forest branch id} (isTop : branch ∈ forest) (isHere : branch.entity = id) :
      LeadsTo forest id [id]
  | deeper {forest branch id way} (isTop : branch ∈ forest)
      (further : LeadsTo branch.children id way) : LeadsTo forest id (branch.entity :: way)

/-- The entities of a branch of a forest stand together in the forest. -/
theorem sublist_entities {branch : Branch} {forest : List Branch} (isTop : branch ∈ forest) :
    (branch.entity :: entities branch.children).Sublist (entities forest) := by
  induction forest with
  | nil => exact absurd isTop List.not_mem_nil
  | cons first rest inductionHypothesis =>
      obtain ⟨id, below⟩ := first
      rw [entities_cons, ← List.cons_append]
      rcases List.mem_cons.mp isTop with rfl | isRest
      · exact List.sublist_append_left _ _
      · exact (inductionHypothesis isRest).trans (List.sublist_append_right _ _)

/-- Where no entity stands twice, an entity is in one branch only. -/
theorem eq_of_mem {forest : List Branch} (nodup : (entities forest).Nodup) {left right : Branch}
    (isLeft : left ∈ forest) (isRight : right ∈ forest) {id : EntityId}
    (inLeft : id ∈ left.entity :: entities left.children)
    (inRight : id ∈ right.entity :: entities right.children) : left = right := by
  induction forest with
  | nil => exact absurd isLeft List.not_mem_nil
  | cons first rest inductionHypothesis =>
      obtain ⟨top, below⟩ := first
      rw [entities_cons, ← List.cons_append, List.nodup_append'] at nodup
      obtain ⟨-, restNodup, apart⟩ := nodup
      rcases List.mem_cons.mp isLeft with rfl | leftRest <;>
        rcases List.mem_cons.mp isRight with rfl | rightRest
      · rfl
      · exact absurd ((sublist_entities rightRest).subset inRight) (apart inLeft)
      · exact absurd ((sublist_entities leftRest).subset inLeft) (apart inRight)
      · exact inductionHypothesis restNodup leftRest rightRest

namespace LeadsTo

variable {forest : List Branch} {id : EntityId} {way : List EntityId}

/-- A way through a forest is one through a larger forest. -/
theorem mono {larger : List Branch} (subset : forest ⊆ larger) (leads : LeadsTo forest id way) :
    LeadsTo larger id way := by
  cases leads with
  | here isTop isHere => exact .here (subset isTop) isHere
  | deeper isTop further => exact .deeper (subset isTop) further

/-- The entities on a branch stand in the forest, in their order. -/
theorem sublist (leads : LeadsTo forest id way) : way.Sublist (entities forest) := by
  induction leads with
  | here isTop isHere =>
      exact List.singleton_sublist.mpr (isHere ▸ mem_entities_of_mem isTop)
  | deeper isTop _ inductionHypothesis =>
      exact (inductionHypothesis.cons_cons _).trans (sublist_entities isTop)

/-- A way to an entity ends at it. -/
theorem getLast?_eq (leads : LeadsTo forest id way) : way.getLast? = some id := by
  induction leads with
  | here => rfl
  | @deeper forest branch id way _ further inductionHypothesis =>
      rw [List.getLast?_cons, inductionHypothesis]
      rfl

/-- A way leads to an entity of the forest. -/
theorem mem_entities (leads : LeadsTo forest id way) : id ∈ entities forest :=
  leads.sublist.subset (List.mem_of_getLast? leads.getLast?_eq)

/-- A branch sets out from the top of the forest. -/
theorem head_mem (leads : LeadsTo forest id way) :
    ∀ top ∈ way.head?, top ∈ forest.map entity := by
  cases leads with
  | here isTop isHere => simpa using ⟨_, isTop, isHere⟩
  | deeper isTop _ => simpa using ⟨_, isTop, rfl⟩

/-- Where no entity stands twice, what stands at the top does not stand below as well. -/
theorem not_deeper (nodup : (entities forest).Nodup) {branch upper : Branch}
    (isTop : branch ∈ forest) (isUpper : upper ∈ forest) :
    ¬ LeadsTo upper.children branch.entity way := by
  intro further
  obtain rfl := eq_of_mem nodup isTop isUpper List.mem_cons_self
    (List.mem_cons_of_mem _ further.mem_entities)
  have branchNodup := nodup.sublist (sublist_entities isTop)
  exact (List.nodup_cons.mp branchNodup).1 further.mem_entities

/-- Where no entity stands twice, one branch leads to an entity. -/
theorem unique (nodup : (entities forest).Nodup) (leads : LeadsTo forest id way)
    {other : List EntityId} (otherLeads : LeadsTo forest id other) : way = other := by
  induction leads generalizing other with
  | here isTop isHere =>
      cases otherLeads with
      | here => rfl
      | deeper isUpper further =>
          subst isHere
          exact absurd further (not_deeper nodup isTop isUpper)
  | deeper isTop further inductionHypothesis =>
      cases otherLeads with
      | here isUpper isHere =>
          subst isHere
          exact absurd further (not_deeper nodup isUpper isTop)
      | deeper otherTop otherFurther =>
          obtain rfl := eq_of_mem nodup isTop otherTop
            (List.mem_cons_of_mem _ further.mem_entities)
            (List.mem_cons_of_mem _ otherFurther.mem_entities)
          have branchNodup := nodup.sublist (sublist_entities isTop)
          rw [inductionHypothesis (List.nodup_cons.mp branchNodup).2 otherFurther]

end LeadsTo

/-- A branch leads to every entity of a forest. -/
theorem exists_leadsTo : (forest : List Branch) → ∀ id ∈ entities forest,
    ∃ way, LeadsTo forest id way
  | [], _, isShown => absurd isShown List.not_mem_nil
  | .mk top below :: rest, id, isShown => by
      rw [entities_cons] at isShown
      rcases List.mem_cons.mp isShown with rfl | isLower
      · exact ⟨_, .here List.mem_cons_self rfl⟩
      · rcases List.mem_append.mp isLower with isBelow | isBeside
        · obtain ⟨way, further⟩ := exists_leadsTo below id isBelow
          exact ⟨_, .deeper List.mem_cons_self further⟩
        · obtain ⟨way, leads⟩ := exists_leadsTo rest id isBeside
          exact ⟨way, leads.mono (List.subset_cons_self _ _)⟩

end Branch

namespace Collection.IsLinked

variable {collection : Collection} (linked : collection.IsLinked)
include linked

/-- A climb stays inside the graph. -/
theorem climbs_lt {id : EntityId} (isPlace : id < collection.graph.size) {path : List EntityId}
    (climbs : collection.graph.Climbs [] (some id) path) :
    ∀ other ∈ path, other < collection.graph.size := by
  refine climbs.isChain.induction (· < collection.graph.size) path
    (fun _ _ hasParent _ => linked.parent_lt hasParent) fun isMet => ?_
  have isFirst := climbs.head_eq (path.head isMet) (List.head_mem_head? isMet)
  exact Option.some.inj isFirst ▸ isPlace

/-- A climb from a class or module ends at a root: parent links lead to no cycle. -/
theorem top_mem_roots {id top : EntityId} (isPlace : id < collection.graph.size)
    {path : List EntityId} (climbs : collection.graph.Climbs [] (some id) path)
    (isTop : path.getLast? = some top) :
    top ∈ collection.graph.roots collection.classes := by
  have arePlaces := linked.climbs_lt isPlace climbs
  have topMet := List.mem_of_getLast? isTop
  have topClass := (linked.mem_classes top).mpr
    ⟨arePlaces top topMet, climbs.areNamespaces top topMet⟩
  refine Graph.mem_roots.mpr ⟨topClass, fun parent hasParent => ?_⟩
  by_contra isNamespace
  have parentMet := (climbs.parent_met isTop hasParent (by simpa using isNamespace)).resolve_right
    List.not_mem_nil
  obtain ⟨other, otherMet, same⟩ := List.mem_map.mp parentMet
  obtain rfl := linked.distinct other parent (arePlaces other otherMet)
    (linked.parent_lt hasParent) same
  -- The parent stands below the top as well, so the way up from it leads back to it.
  have leadsUp : ∀ lower ∈ path, Relation.ReflTransGen collection.graph.HasParent lower top :=
    climbs.isChain.backwards_induction _ path (fun _ _ => .head) fun isMet => by
      rw [List.getLast?_eq_some_getLast isMet] at isTop
      rw [Option.some.inj isTop]
  exact linked.acyclic other (Relation.TransGen.tail' (leadsUp other otherMet) hasParent)

/-- Full names tell lines of entities with places apart. -/
theorem eq_of_keysOf_eq {left right : List EntityId}
    (leftPlaces : ∀ id ∈ left, id < collection.graph.size)
    (rightPlaces : ∀ id ∈ right, id < collection.graph.size)
    (same : collection.graph.keysOf left = collection.graph.keysOf right) : left = right := by
  induction left generalizing right with
  | nil => exact (List.map_eq_nil_iff.mp same.symm).symm
  | cons first left inductionHypothesis =>
      cases right with
      | nil => exact absurd same (by simp [Graph.keysOf])
      | cons second right =>
          obtain ⟨here, others⟩ := List.cons.inj same
          rw [List.forall_mem_cons] at leftPlaces rightPlaces
          rw [linked.distinct first second leftPlaces.1 rightPlaces.1 (Value.text.inj here),
            inductionHypothesis leftPlaces.2 rightPlaces.2 others]

/-- Branches set out from roots. -/
theorem branch_head_mem_roots {id : EntityId} {way : List EntityId}
    (leads : Branch.LeadsTo collection.forest id way) :
    ∀ top ∈ way.head?, top ∈ collection.graph.roots collection.classes := by
  intro top isHead
  obtain ⟨chosen, after, level, spans⟩ := linked.forest_spans
  exact ((Graph.mem_levelOrder linked.roots_named level).mp
    (spans.sublist.subset (leads.head_mem top isHead))).1

/-- A branch whose entities stand under their parents is climbed from its lower end. -/
theorem climbs_branch {id : EntityId} {way : List EntityId}
    (leads : Branch.LeadsTo collection.forest id way)
    (chain : way.IsChain fun upper lower => collection.graph.HasParent lower upper) :
    collection.graph.Climbs [] (some id) way.reverse := by
  have areClasses : ∀ other ∈ way, other ∈ collection.classes := fun other onBranch =>
    (linked.forest_entities (leads.sublist.subset onBranch)).1
  have isFirst : way.reverse.head? = some id := List.head?_reverse.trans leads.getLast?_eq
  rw [← isFirst]
  refine Graph.climbs_of_isChain (List.isChain_reverse.mpr chain) (fun other onBranch => ?_) ?_
    fun top isTop => ?_
  · have isClass := areClasses other (List.mem_reverse.mp onBranch)
    exact ⟨((linked.mem_classes other).mp isClass).2, List.not_mem_nil⟩
  · rw [List.map_reverse]
    exact List.nodup_reverse.mpr (linked.nodup_fullNames
      (fun other onBranch => linked.class_lt (areClasses other onBranch))
      (linked.nodup_forest.sublist leads.sublist))
  · rw [List.getLast?_reverse] at isTop
    exact (Graph.mem_roots.mp (linked.branch_head_mem_roots leads top isTop)).2

/-- What a climb from an entity meets is its branch exactly when each entity on the branch
stands under its parent. -/
theorem climb_eq_branch_iff {id : EntityId} {path way : List EntityId}
    (climbs : collection.graph.Climbs [] (some id) path)
    (leads : Branch.LeadsTo collection.forest id way) :
    path.reverse = way ↔ way.IsChain fun upper lower => collection.graph.HasParent lower upper := by
  constructor
  · rintro rfl
    exact climbs.isLine.linked
  · intro chain
    rw [climbs.unique (linked.climbs_branch leads chain), List.reverse_reverse]

end Collection.IsLinked

namespace Manifest

/-- The keys of a class or module of a loaded manifest are the names of a line of its
ancestors, from a root down to itself. They are the names on the branch that leads to it
exactly when each entity on the branch stands under its own parent. -/
theorem openKeys_name_branch_iff {manifest : Value} (typed : isWellTyped manifest = true)
    {collection : Collection} (loaded : load manifest = .ok collection) {id : EntityId}
    (isClass : id ∈ collection.classes)
    (documented : collection.graph.hasDocumentation id = true) (label : Value) :
    ∃ nodes way line,
      collection.graph.classTree collection.classes = .ok nodes ∧
      collection.graph.Shows nodes collection.forest ∧
      (∀ other, Branch.LeadsTo collection.forest id other ↔ other = way) ∧
      collection.graph.IsLine line ∧ line.getLast? = some id ∧
      (∀ top ∈ line.head?, top ∈ collection.graph.roots collection.classes) ∧
      collection.graph.openKeys id label = .ok (collection.graph.keysOf line) ∧
      (collection.graph.openKeys id label = .ok (collection.graph.keysOf way) ↔
        way.IsChain fun upper lower => collection.graph.HasParent lower upper) := by
  have linked := isLinked_of_load typed loaded
  obtain ⟨isPlace, isNamespace⟩ := (linked.mem_classes id).mp isClass
  obtain ⟨nodes, made, shows⟩ := linked.classTree_shows
  obtain ⟨way, leads⟩ := Branch.exists_leadsTo _ id (linked.mem_forest.mpr ⟨isClass, documented⟩)
  obtain ⟨path, climbs, short⟩ := collection.graph.exists_climbs [] (some id)
  have keys := Graph.openKeys_eq_keysOf isNamespace climbs
    (short.trans collection.graph.unseen_nil_le) label
  refine ⟨nodes, way, path.reverse, made, shows, fun other => ⟨fun otherLeads => ?_, ?_⟩,
    climbs.isLine, ?_, fun top isTop => ?_, keys, ?_⟩
  · exact otherLeads.unique linked.nodup_forest leads
  · rintro rfl
    exact leads
  · obtain ⟨above, rfl⟩ := climbs.exists_eq_cons isNamespace
    rw [List.getLast?_reverse]
    rfl
  · rw [List.head?_reverse] at isTop
    exact linked.top_mem_roots isPlace climbs isTop
  · rw [keys, ← linked.climb_eq_branch_iff climbs leads]
    constructor
    · intro same
      refine linked.eq_of_keysOf_eq (fun other isMet => ?_) (fun other onWay => ?_)
        (Except.ok.inj same)
      · exact linked.climbs_lt isPlace climbs other (List.mem_reverse.mp isMet)
      · exact linked.class_lt (linked.forest_entities (leads.sublist.subset onWay)).1
    · rintro rfl
      rfl

/-- A module that lists a class without parent, and a class that stands in that one. -/
def lent : Value :=
  .record
    [("classes", .list
      [.record [("full_name", .text "A"), ("kind", .text "module"),
        ("children", .list [.text "B"])],
       .record [("full_name", .text "B"), ("path", .text "B.html"), ("documents_self", .bool true)],
       .record [("full_name", .text "B::C"), ("parent", .text "B"), ("path", .text "C.html"),
        ("documents_self", .bool true)]])]

/-- The keys of `B::C` are a line from the root `B`, and miss its branch because `B` stands
under the module that lists it. -/
theorem lent_openKeys_name_branch_iff :
    isWellTyped lent = true ∧ ∃ collection nodes way line, load lent = .ok collection ∧
      2 ∈ collection.classes ∧ collection.graph.hasDocumentation 2 = true ∧
      collection.graph.classTree collection.classes = .ok nodes ∧
      collection.graph.Shows nodes collection.forest ∧
      (∀ other, Branch.LeadsTo collection.forest 2 other ↔ other = way) ∧
      collection.graph.IsLine line ∧ line.getLast? = some 2 ∧
      (∀ top ∈ line.head?, top ∈ collection.graph.roots collection.classes) ∧
      collection.graph.openKeys 2 (.text "files") = .ok (collection.graph.keysOf line) ∧
      (collection.graph.openKeys 2 (.text "files") = .ok (collection.graph.keysOf way) ↔
        way.IsChain fun upper lower => collection.graph.HasParent lower upper) := by
  have typed : isWellTyped lent = true := by decide
  obtain ⟨collection, loaded, isClass, documented⟩ : ∃ collection, load lent = .ok collection ∧
      2 ∈ collection.classes ∧ collection.graph.hasDocumentation 2 = true := by
    refine ⟨_, rfl, ?_⟩
    decide
  obtain ⟨nodes, way, line, statements⟩ :=
    openKeys_name_branch_iff typed loaded isClass documented (.text "files")
  exact ⟨typed, collection, nodes, way, line, loaded, isClass, documented, statements⟩

/-- The branch down to `B::C` sets out from `A`, which is not among its keys. -/
theorem lent_openKeys_miss_branch :
    isWellTyped lent = true ∧ ∃ collection, load lent = .ok collection ∧
      2 ∈ collection.classes ∧ collection.graph.hasDocumentation 2 = true ∧
      Branch.LeadsTo collection.forest 2 [0, 1, 2] ∧
      collection.graph.keysOf [0, 1, 2] = [.text "A", .text "B", .text "B::C"] ∧
      collection.graph.openKeys 2 (.text "files") = .ok [.text "B", .text "B::C"] := by
  obtain ⟨collection, loaded, isClass, documented, forest, names, keys⟩ :
      ∃ collection, load lent = .ok collection ∧
        2 ∈ collection.classes ∧ collection.graph.hasDocumentation 2 = true ∧
        collection.forest = [.mk 0 [.mk 1 [.mk 2 []]]] ∧
        collection.graph.keysOf [0, 1, 2] = [.text "A", .text "B", .text "B::C"] ∧
        collection.graph.openKeys 2 (.text "files") = .ok [.text "B", .text "B::C"] :=
    ⟨_, rfl, by decide, by decide, by cbv, rfl, rfl⟩
  refine ⟨by decide, collection, loaded, isClass, documented, ?_, names, keys⟩
  rw [forest]
  have atC : Branch.LeadsTo [.mk 2 []] 2 [2] := .here List.mem_cons_self rfl
  have atB : Branch.LeadsTo [.mk 1 [.mk 2 []]] 2 [1, 2] := .deeper List.mem_cons_self atC
  exact .deeper List.mem_cons_self atB

end Manifest

end DocAtlas
