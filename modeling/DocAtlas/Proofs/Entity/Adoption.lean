import DocAtlas.Proofs.Entity.Links
import Mathlib.Data.List.Induction

/-!
# Adoption

Containment links go both ways: a container lists its members, and a member names its parent.
This module follows a sequence of added links over entities that start without any. The parent
of an entity is the container of its first link and never changes, while it may stand under
any number of containers, also under itself. The two ways stay in agreement after every link.
-/

namespace DocAtlas

namespace Link

/-- A list with a member has what was in it, and the member. -/
theorem mem_withMember {children : List EntityId} {child id : EntityId} :
    id ∈ withMember children child ↔ id ∈ children ∨ id = child := by
  by_cases isChild : child ∈ children
  · rw [withMember_of_mem isChild]
    exact ⟨.inl, fun found => found.elim (·) fun same => same ▸ isChild⟩
  · simp [withMember_of_not_mem isChild]

/-- A further link gives its member a container when no link before did. -/
theorem container?_append (links : List Link) (link : Link) (member : EntityId) :
    container? (links ++ [link]) member =
      (container? links member).or (if member = link.2 then some link.1 else none) := by
  unfold container?
  rw [List.find?_append, Option.map_or]
  by_cases isMember : member = link.2
  · simp [isMember]
  · have other : ¬ link.2 = member := fun equal => isMember equal.symm
    simp [isMember, other]

end Link

namespace Graph

/-- No entity has a parent or a child. -/
def IsFresh (graph : Graph) : Prop :=
  ∀ id < graph.size, (graph.entity id).parent = none ∧ (graph.entity id).children = []

/-- Links join entities of a graph. -/
def Joins (graph : Graph) (links : List Link) : Prop :=
  ∀ link ∈ links, link.1 < graph.size ∧ link.2 < graph.size

/-- Graphs with the same entities at all places are the same. -/
theorem eq_of_entity {left right : Graph} (sameSize : left.size = right.size)
    (sameEntities : ∀ id < left.size, left.entity id = right.entity id) : left = right := by
  obtain ⟨entities⟩ := left
  obtain ⟨others⟩ := right
  refine congrArg Graph.mk (Array.ext sameSize fun id isPlace isOtherPlace => ?_)
  simpa [Graph.entity, isPlace, isOtherPlace] using sameEntities id isPlace

/-- Links are added one list after the other. -/
theorem addChildren_append (earlier later : List Link) (graph : Graph) :
    graph.addChildren (earlier ++ later) = (graph.addChildren earlier).addChildren later :=
  List.foldl_append

/-- The last of some links is added to the graph that the others made. -/
theorem addChildren_append_singleton (links : List Link) (link : Link) (graph : Graph) :
    graph.addChildren (links ++ [link]) = (graph.addChildren links).addChild link.1 link.2 :=
  addChildren_append links [link] graph

/-- The containment in a graph is what links made of fresh entities. -/
structure IsMadeBy (graph : Graph) (links : List Link) : Prop where
  /-- The members of a container are those that it was linked to. -/
  mem_children : ∀ id < graph.size, ∀ member,
    member ∈ (graph.entity id).children ↔ (id, member) ∈ links
  /-- They stand in the order of their first links. -/
  ordered : ∀ id < graph.size, (graph.entity id).children.Pairwise fun earlier later =>
    links.idxOf (id, earlier) < links.idxOf (id, later)
  /-- The parent of an entity is the container of its first link. -/
  parent_eq : ∀ id < graph.size, (graph.entity id).parent = Link.container? links id

/-- A fresh graph is made by no links. -/
theorem IsFresh.isMadeBy_nil {graph : Graph} (fresh : graph.IsFresh) : graph.IsMadeBy [] where
  mem_children := by
    intro id isPlace member
    simp [(fresh id isPlace).2]
  ordered := by
    intro id isPlace
    simp [(fresh id isPlace).2]
  parent_eq := by
    intro id isPlace
    simp [(fresh id isPlace).1, Link.container?]

namespace IsMadeBy

variable {graph : Graph} {links : List Link} (made : graph.IsMadeBy links)
include made

/-- No child stands twice in its container. -/
theorem nodup_children {id : EntityId} (isPlace : id < graph.size) :
    (graph.entity id).children.Nodup :=
  (made.ordered id isPlace).imp fun {earlier later} less same => by
    rw [same] at less
    exact Nat.lt_irrefl _ less

/-- An entity with a parent is among the children of the parent. -/
theorem mem_children_of_parent (joins : graph.Joins links) {id parent : EntityId}
    (isPlace : id < graph.size) (hasParent : (graph.entity id).parent = some parent) :
    id ∈ (graph.entity parent).children := by
  rw [made.parent_eq id isPlace] at hasParent
  obtain ⟨link, found, rfl⟩ := Option.map_eq_some_iff.mp hasParent
  have isLink : link ∈ links := List.mem_of_find?_eq_some found
  have isMember : link.2 = id := by simpa using List.find?_some found
  rw [made.mem_children link.1 (joins link isLink).1, ← isMember]
  exact isLink

/-- A member of a link has a parent. -/
theorem exists_parent {link : Link} (isPlace : link.2 < graph.size) (isLink : link ∈ links) :
    ∃ parent, (graph.entity link.2).parent = some parent := by
  rw [made.parent_eq link.2 isPlace, Link.container?, ← Option.ne_none_iff_exists', ne_eq,
    Option.map_eq_none_iff, List.find?_eq_none]
  exact fun noLink => noLink link isLink (by simp)

/-- Members stand in the order of their first links also once there is one link more. -/
theorem ordered_append {id : EntityId} (isPlace : id < graph.size) (link : Link) :
    (graph.entity id).children.Pairwise fun earlier later =>
      (links ++ [link]).idxOf (id, earlier) < (links ++ [link]).idxOf (id, later) := by
  refine (made.ordered id isPlace).imp_of_mem fun {earlier later} isEarlier isLater less => ?_
  rw [made.mem_children id isPlace] at isEarlier isLater
  rwa [List.idxOf_append_of_mem isEarlier, List.idxOf_append_of_mem isLater]

/-- One more link keeps the containment what links have made of it. -/
theorem addChild {container member : EntityId} :
    (graph.addChild container member).IsMadeBy (links ++ [(container, member)]) where
  mem_children := by
    intro id isPlace other
    rw [size_addChild] at isPlace
    rw [entity_addChild _ _ _ _ isPlace, List.mem_append, List.mem_singleton]
    by_cases isContainer : id = container
    · subst isContainer
      simp [Link.mem_withMember, made.mem_children id isPlace]
    · simp [isContainer, made.mem_children id isPlace]
  ordered := by
    intro id isPlace
    rw [size_addChild] at isPlace
    rw [entity_addChild _ _ _ _ isPlace]
    have ordered := made.ordered_append isPlace (container, member)
    by_cases isContainer : id = container
    · subst isContainer
      rw [if_pos rfl]
      by_cases isChild : member ∈ (graph.entity id).children
      · rw [Link.withMember_of_mem isChild]
        exact ordered
      · -- A new member comes last, and so does its first link.
        have isNew : (id, member) ∉ links := (made.mem_children id isPlace member).not.mp isChild
        rw [Link.withMember_of_not_mem isChild, List.pairwise_append]
        refine ⟨ordered, List.pairwise_singleton _ _, fun earlier isEarlier later isLater => ?_⟩
        rw [made.mem_children id isPlace] at isEarlier
        rw [List.mem_singleton.mp isLater, List.idxOf_append_of_mem isEarlier,
          List.idxOf_append_of_notMem isNew]
        exact Nat.lt_add_right _ (List.idxOf_lt_length_iff.mpr isEarlier)
    · rw [if_neg isContainer]
      exact ordered
  parent_eq := by
    intro id isPlace
    rw [size_addChild] at isPlace
    rw [entity_addChild _ _ _ _ isPlace, Link.container?_append, ← made.parent_eq id isPlace]
    by_cases isMember : id = member
    · simp [isMember]
    · simp [isMember]

/-- A link that was made before changes nothing. -/
theorem addChild_of_mem (joins : graph.Joins links) {link : Link} (isLink : link ∈ links) :
    graph.addChild link.1 link.2 = graph := by
  obtain ⟨isContainer, isMember⟩ := joins link isLink
  have isChild : link.2 ∈ (graph.entity link.1).children :=
    (made.mem_children link.1 isContainer link.2).mpr isLink
  obtain ⟨parent, hasParent⟩ := made.exists_parent isMember isLink
  refine eq_of_entity (size_addChild _ _ _) fun id isPlace => ?_
  rw [size_addChild] at isPlace
  rw [entity_addChild _ _ _ _ isPlace]
  have sameParent : (if id = link.2 then (graph.entity id).parent.or (some link.1)
      else (graph.entity id).parent) = (graph.entity id).parent := by
    split
    · rename_i same
      rw [same, hasParent]
      rfl
    · rfl
  have sameChildren : (if id = link.1 then Link.withMember (graph.entity id).children link.2
      else (graph.entity id).children) = (graph.entity id).children := by
    split
    · rename_i same
      exact Link.withMember_of_mem (same ▸ isChild)
    · rfl
  rw [sameParent, sameChildren]

end IsMadeBy

/-- Whatever links are added to fresh entities, the containment is what they made. -/
theorem IsFresh.isMadeBy {graph : Graph} (fresh : graph.IsFresh) (links : List Link) :
    (graph.addChildren links).IsMadeBy links := by
  induction links using List.reverseRecOn with
  | nil => exact fresh.isMadeBy_nil
  | append_singleton links link inductionHypothesis =>
      rw [addChildren_append_singleton]
      exact inductionHypothesis.addChild

/-- A parent, once it is decided, stays. -/
theorem parent_addChildren {graph : Graph} {links : List Link} {id parent : EntityId}
    (hasParent : (graph.entity id).parent = some parent) (isPlace : id < graph.size) :
    ((graph.addChildren links).entity id).parent = some parent := by
  rw [entity_addChildren _ _ _ isPlace, hasParent]
  rfl

/-- Links over fresh entities, whatever loops they form: no entity has a child twice. The
children of a container are the members that it was linked to, in the order of the first links.
The parent of an entity is the container of its first link, which lists it, and later links do
not change it. A link made over again changes nothing. -/
theorem containment_by_links {graph : Graph} (fresh : graph.IsFresh) {links : List Link}
    (joins : graph.Joins links) :
    (∀ id < graph.size,
      ((graph.addChildren links).entity id).children.Nodup ∧
        (∀ member, member ∈ ((graph.addChildren links).entity id).children ↔
          (id, member) ∈ links) ∧
        (((graph.addChildren links).entity id).children.Pairwise fun earlier later =>
          links.idxOf (id, earlier) < links.idxOf (id, later)) ∧
        ((graph.addChildren links).entity id).parent = Link.container? links id ∧
        ∀ parent, ((graph.addChildren links).entity id).parent = some parent →
          id ∈ ((graph.addChildren links).entity parent).children) ∧
      (∀ earlier later, links = earlier ++ later → ∀ id < graph.size, ∀ parent,
        ((graph.addChildren earlier).entity id).parent = some parent →
          ((graph.addChildren links).entity id).parent = some parent) ∧
      ∀ link ∈ links,
        (graph.addChildren links).addChild link.1 link.2 = graph.addChildren links := by
  have made := fresh.isMadeBy links
  have joinsAfter : (graph.addChildren links).Joins links := by
    unfold Joins
    rwa [size_addChildren]
  have isPlaceAfter {id : EntityId} (isPlace : id < graph.size) :
      id < (graph.addChildren links).size := by
    rwa [size_addChildren]
  refine ⟨fun id isPlace => ⟨made.nodup_children (isPlaceAfter isPlace),
    made.mem_children id (isPlaceAfter isPlace), made.ordered id (isPlaceAfter isPlace),
    made.parent_eq id (isPlaceAfter isPlace), fun parent hasParent =>
      made.mem_children_of_parent joinsAfter (isPlaceAfter isPlace) hasParent⟩, ?_, ?_⟩
  · rintro earlier later rfl id isPlace parent hasParent
    rw [addChildren_append]
    exact parent_addChildren hasParent (by rwa [size_addChildren])
  · exact fun link isLink => made.addChild_of_mem joinsAfter isLink

/-- Three modules without links. -/
def trio : Graph :=
  ⟨#[{ name := .text "A", fullName := "A", kind := .moduleDef },
     { name := .text "B", fullName := "B", kind := .moduleDef },
     { name := .text "C", fullName := "C", kind := .moduleDef }]⟩

/-- Links between them: A and B contain each other, A contains itself and twice B, and C
contains B as well. -/
def loops : List Link := [(0, 1), (1, 0), (0, 0), (2, 1), (0, 1), (0, 2)]

/-- The links of the trio leave A with B, itself and C for children and with B for its parent.
The parent of B is A, though C has B for a child too. -/
theorem trio_containment :
    trio.IsFresh ∧ trio.Joins loops ∧
      ((trio.addChildren loops).entity 0).children = [1, 0, 2] ∧
      ((trio.addChildren loops).entity 0).parent = some 1 ∧
      ((trio.addChildren loops).entity 1).parent = some 0 ∧
      1 ∈ ((trio.addChildren loops).entity 2).children ∧
      (trio.addChildren loops).addChild 2 1 = trio.addChildren loops := by
  have fresh : trio.IsFresh := by
    unfold IsFresh
    decide
  have joins : trio.Joins loops := by
    unfold Joins
    decide
  obtain ⟨entities, -, again⟩ := containment_by_links fresh joins
  obtain ⟨-, -, -, parentOfA, -⟩ := entities 0 (by decide)
  obtain ⟨-, -, -, parentOfB, -⟩ := entities 1 (by decide)
  obtain ⟨-, childrenOfC, -⟩ := entities 2 (by decide)
  exact ⟨fresh, joins, rfl, parentOfA, parentOfB, (childrenOfC 1).mpr (by decide),
    again (2, 1) (by decide)⟩

end Graph

end DocAtlas
