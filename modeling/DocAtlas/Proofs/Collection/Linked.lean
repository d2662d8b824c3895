import DocAtlas.Proofs.Tree.Span
import Mathlib.Data.Fintype.Card
import Mathlib.Data.Fintype.EquivFin

/-!
# Linked collections

This module holds what every theory of a run relies on: the promises that loading
keeps for the collection that it returns. Parent links stand among the containment
links and lead to no cycle, while containment itself may loop and share.
-/

namespace DocAtlas

/-- The promises that loading keeps for a collection. -/
structure Collection.IsLinked (collection : Collection) : Prop where
  accepted : collection.validate = .ok ()
  orderly : collection.graph.IsOrderly
  relativeName : ∀ id, id < collection.graph.size →
    ∃ relativeName, (collection.graph.entity id).relativeName = .text relativeName
  mem_classes : ∀ id, id ∈ collection.classes ↔
    id < collection.graph.size ∧ collection.graph.isNamespace id = true
  mem_files : ∀ id, id ∈ collection.files ↔
    id < collection.graph.size ∧ collection.graph.isNamespace id = false
  nodup_classes : collection.classes.Nodup
  nodup_files : collection.files.Nodup
  distinct : ∀ left right, left < collection.graph.size → right < collection.graph.size →
    collection.graph.fullName left = collection.graph.fullName right → left = right
  nodup_children : ∀ id, (collection.graph.entity id).children.Nodup
  parent_contains : ∀ child parent, collection.graph.HasParent child parent →
    child ∈ (collection.graph.entity parent).children
  file_parent : ∀ child file, collection.graph.isNamespace file = false →
    child ∈ (collection.graph.entity file).children → collection.graph.HasParent child file
  acyclic : ∀ id, ¬ Relation.TransGen collection.graph.HasParent id id

namespace Collection.IsLinked

variable {collection : Collection} (linked : collection.IsLinked)
include linked

/-- A parent is a place of the graph. -/
theorem parent_lt {child parent : EntityId}
    (hasParent : collection.graph.HasParent child parent) : parent < collection.graph.size := by
  by_contra outside
  have isChild := linked.parent_contains child parent hasParent
  rw [Graph.entity_outside (Nat.le_of_not_lt outside)] at isChild
  exact absurd isChild List.not_mem_nil

/-- What is shown of an entity whenever it holds of its parent holds of all entities. -/
theorem parent_induction {holds : EntityId → Prop}
    (step : ∀ id, id < collection.graph.size →
      (∀ parent, collection.graph.HasParent id parent → holds parent) → holds id) :
    ∀ id, id < collection.graph.size → holds id := by
  let isAbove (above below : Fin collection.graph.size) : Prop :=
    Relation.TransGen collection.graph.HasParent below.1 above.1
  have transitive : IsTrans _ isAbove := ⟨fun _ _ _ first second => second.trans first⟩
  have irreflexive : Std.Irrefl isAbove := ⟨fun id => linked.acyclic id.1⟩
  have wellFounded := Finite.wellFounded_of_trans_of_irrefl isAbove
  intro id isPlace
  induction hid : (⟨id, isPlace⟩ : Fin collection.graph.size) using wellFounded.induction
    generalizing id with
  | _ place inductionHypothesis =>
      subst hid
      refine step id isPlace fun parent hasParent => ?_
      exact inductionHypothesis ⟨parent, linked.parent_lt hasParent⟩ (.single hasParent) parent
        (linked.parent_lt hasParent) rfl

/-- Containment stays inside the graph. -/
theorem reaches_lt {start target : EntityId} (isPlace : start < collection.graph.size)
    (reaches : collection.graph.Reaches start target) : target < collection.graph.size := by
  induction reaches with
  | refl => exact isPlace
  | tail _ contains _ => exact linked.orderly.nested_lt contains

/-- An entity has documentation exactly when it reaches a documented entity. -/
theorem hasDocumentation_iff {start : EntityId} (isPlace : start < collection.graph.size) :
    collection.graph.hasDocumentation start = true ↔
      ∃ target, collection.graph.Reaches start target ∧
        (collection.graph.entity target).isDocumented = true :=
  Graph.hasDocumentation_iff fun left right reachesLeft reachesRight =>
    linked.distinct left right (linked.reaches_lt isPlace reachesLeft)
      (linked.reaches_lt isPlace reachesRight)

/-- Documentation is inherited upwards along containment. -/
theorem hasDocumentation_of_contains {parent child : EntityId}
    (contains : collection.graph.Contains parent child)
    (documented : collection.graph.hasDocumentation child = true) :
    collection.graph.hasDocumentation parent = true := by
  obtain ⟨target, reaches, isDocumented⟩ :=
    (linked.hasDocumentation_iff (linked.orderly.nested_lt contains)).mp documented
  exact (linked.hasDocumentation_iff contains.lt_size).mpr
    ⟨target, .head contains reaches, isDocumented⟩

/-- The parent of a class or module contains it. -/
theorem contains_of_hasParent {child parent : EntityId}
    (isNamespace : collection.graph.isNamespace child = true)
    (hasParent : collection.graph.HasParent child parent) :
    collection.graph.Contains parent child :=
  Graph.contains_iff.mpr ⟨linked.parent_contains child parent hasParent, isNamespace⟩

/-- A class is a place of the graph. -/
theorem class_lt {id : EntityId} (isClass : id ∈ collection.classes) :
    id < collection.graph.size :=
  ((linked.mem_classes id).mp isClass).1

/-- What a container contains is a class of the collection. -/
theorem nested_mem_classes {parent child : EntityId}
    (contains : collection.graph.Contains parent child) : child ∈ collection.classes :=
  (linked.mem_classes child).mpr
    ⟨linked.orderly.nested_lt contains, (Graph.contains_iff.mp contains).2⟩

/-- Names tell the entities of a list apart. -/
theorem nodup_fullNames {ids : List EntityId} (arePlaces : ∀ id ∈ ids, id < collection.graph.size)
    (nodup : ids.Nodup) : (ids.map collection.graph.fullName).Nodup :=
  nodup.map_on fun left isLeft right isRight =>
    linked.distinct left right (arePlaces left isLeft) (arePlaces right isRight)

/-- No class is nested twice in one container. -/
theorem nodup_nested (id : EntityId) : (collection.graph.nested id).Nodup :=
  (linked.nodup_children id).filter _

/-- No class is a root twice. -/
theorem nodup_roots : (collection.graph.roots collection.classes).Nodup :=
  linked.nodup_classes.filter _

end Collection.IsLinked

end DocAtlas
