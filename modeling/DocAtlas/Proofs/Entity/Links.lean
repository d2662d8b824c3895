import DocAtlas.Entity
import Mathlib.Data.List.Nodup

/-!
# Sequences of links

This module says what a sequence of links does to a graph. Links are pairs of a
container and a member. The first link to a member decides its parent, and the
members of a container stand in the order of their first links, whatever links to
other containers lie between them.
-/

namespace DocAtlas

/-- A container and a member of it. -/
abbrev Link := EntityId × EntityId

namespace Link

/-- The members that links give a container, in order. -/
def members (links : List Link) (container : EntityId) : List EntityId :=
  (links.filter fun link => link.1 == container).map (·.2)

/-- The container that the first link to a member gives it. -/
def container? (links : List Link) (member : EntityId) : Option EntityId :=
  (links.find? fun link => link.2 == member).map (·.1)

/-- Adds a member behind others unless it is among them. -/
def withMember (children : List EntityId) (child : EntityId) : List EntityId :=
  if children.contains child then children else children ++ [child]

/-- The members of a container are those that a link gives it. -/
theorem mem_members {links : List Link} {container member : EntityId} :
    member ∈ members links container ↔ (container, member) ∈ links := by
  simp [members]

/-- Where no member has two links, its link decides its parent. -/
theorem container?_eq_some_iff {links : List Link} (nodup : (links.map Prod.snd).Nodup)
    {container member : EntityId} :
    container? links member = some container ↔ (container, member) ∈ links := by
  unfold container?
  rw [Option.map_eq_some_iff]
  constructor
  · rintro ⟨link, found, rfl⟩
    have isMember : link.2 = member := by simpa using List.find?_some found
    rw [← isMember]
    exact List.mem_of_find?_eq_some found
  · intro isLink
    cases found : links.find? fun link => link.2 == member with
    | none => exact absurd (List.find?_eq_none.mp found _ isLink) (by simp)
    | some link =>
        have isMember : link.2 = member := by simpa using List.find?_some found
        rw [List.inj_on_of_nodup_map nodup (List.mem_of_find?_eq_some found) isLink isMember]
        exact ⟨_, rfl, rfl⟩

/-- A list is left as it is by a member that it has. -/
theorem withMember_of_mem {children : List EntityId} {child : EntityId}
    (isChild : child ∈ children) : withMember children child = children := by
  simp [withMember, isChild]

/-- A new member goes to the end of a list. -/
theorem withMember_of_not_mem {children : List EntityId} {child : EntityId}
    (isNew : child ∉ children) : withMember children child = children ++ [child] := by
  simp [withMember, isNew]

/-- A list to which members are added has them and what was in it. -/
theorem mem_foldl_withMember {children added : List EntityId} {id : EntityId} :
    id ∈ added.foldl withMember children ↔ id ∈ children ∨ id ∈ added := by
  induction added generalizing children with
  | nil => simp
  | cons child rest inductionHypothesis =>
      rw [List.foldl_cons, inductionHypothesis, List.mem_cons]
      by_cases isChild : child ∈ children
      · rw [withMember_of_mem isChild]
        constructor
        · tauto
        · rintro (old | rfl | isRest)
          · exact .inl old
          · exact .inl isChild
          · exact .inr isRest
      · rw [withMember_of_not_mem isChild, List.mem_append, List.mem_singleton, or_assoc]

/-- Adding members to a list repeats none. -/
theorem nodup_foldl_withMember {children added : List EntityId} (nodup : children.Nodup) :
    (added.foldl withMember children).Nodup := by
  induction added generalizing children with
  | nil => exact nodup
  | cons child rest inductionHypothesis =>
      apply inductionHypothesis
      by_cases isChild : child ∈ children
      · rw [withMember_of_mem isChild]
        exact nodup
      · rw [withMember_of_not_mem isChild]
        refine nodup.append (List.nodup_singleton child) ?_
        simpa using isChild

/-- Members without repetitions make up the children of a container that had none. -/
theorem foldl_withMember_of_nodup {children added : List EntityId}
    (nodup : (children ++ added).Nodup) :
    added.foldl withMember children = children ++ added := by
  induction added generalizing children with
  | nil => simp
  | cons child rest inductionHypothesis =>
      have isNew : child ∉ children := fun isChild =>
        (List.nodup_append.mp nodup).2.2 child isChild child List.mem_cons_self rfl
      rw [List.append_cons] at nodup
      rw [List.foldl_cons, withMember_of_not_mem isNew, inductionHypothesis nodup,
        ← List.append_cons]

/-- Where names tell members apart, the names behind those that were there are the new ones, each
at its first place. -/
theorem map_foldl_withMember {Name : Type} [BEq Name] [LawfulBEq Name] {name : EntityId → Name}
    {children added : List EntityId}
    (distinct : ∀ left ∈ children ++ added, ∀ right ∈ children ++ added,
      name left = name right → left = right) :
    (added.foldl withMember children).map name =
      children.map name ++ ((added.map name).removeAll (children.map name)).eraseDups := by
  induction added generalizing children with
  | nil => simp
  | cons child rest inductionHypothesis =>
      rw [List.foldl_cons, List.map_cons, List.cons_removeAll]
      by_cases isChild : child ∈ children
      · have isNamed : name child ∈ children.map name := List.mem_map_of_mem isChild
        rw [withMember_of_mem isChild, if_neg (by simpa using isNamed)]
        exact inductionHypothesis fun left isLeft right isRight =>
          distinct left (by simp at isLeft ⊢; tauto) right (by simp at isRight ⊢; tauto)
      · have isNew : name child ∉ children.map name := by
          intro isNamed
          obtain ⟨other, isOther, same⟩ := List.mem_map.mp isNamed
          exact isChild (distinct other (by simp [isOther]) child (by simp) same ▸ isOther)
        rw [withMember_of_not_mem isChild, if_pos (by simpa using isNew)]
        rw [@inductionHypothesis (children ++ [child]) fun left isLeft right isRight =>
          distinct left (by simpa using isLeft) right (by simpa using isRight)]
        -- The name is taken off what follows, once as a child and once as a repetition.
        have once : (rest.map name).removeAll ((children ++ [child]).map name) =
            ((rest.map name).removeAll (children.map name)).filter fun other =>
              !other == name child := by
          unfold List.removeAll
          rw [List.filter_filter]
          refine List.filter_congr fun other _ => ?_
          rw [Bool.eq_iff_iff]
          simp only [List.map_append, List.map_singleton, Bool.not_eq_true', Bool.and_eq_true,
            List.elem_eq_mem, decide_eq_false_iff_not, List.mem_append, List.mem_singleton,
            beq_eq_false_iff_ne]
          tauto
        rw [once, List.eraseDups_cons]
        simp

end Link

namespace Graph

/-- A graph after links that may decide parents. -/
def addChildren (links : List Link) (graph : Graph) : Graph :=
  links.foldl (fun graph link => graph.addChild link.1 link.2) graph

/-- A graph after links that leave every parent as it is. -/
def appendAll (links : List Link) (graph : Graph) : Graph :=
  links.foldl (fun graph link => graph.appendMissing link.1 link.2) graph

@[simp] theorem size_appendMissing (graph : Graph) (container member : EntityId) :
    (graph.appendMissing container member).size = graph.size :=
  size_update graph container _

@[simp] theorem size_addChild (graph : Graph) (container member : EntityId) :
    (graph.addChild container member).size = graph.size := by
  simp [addChild]

@[simp] theorem size_addChildren (links : List Link) (graph : Graph) :
    (graph.addChildren links).size = graph.size := by
  induction links generalizing graph with
  | nil => rfl
  | cons link rest inductionHypothesis =>
      exact (inductionHypothesis (graph.addChild link.1 link.2)).trans (size_addChild ..)

@[simp] theorem size_appendAll (links : List Link) (graph : Graph) :
    (graph.appendAll links).size = graph.size := by
  induction links generalizing graph with
  | nil => rfl
  | cons link rest inductionHypothesis =>
      exact (inductionHypothesis (graph.appendMissing link.1 link.2)).trans
        (size_appendMissing ..)

/-- One appended member changes the children of its container and nothing else. -/
theorem entity_appendMissing (graph : Graph) (container member id : EntityId)
    (isPlace : id < graph.size) :
    (graph.appendMissing container member).entity id =
      { graph.entity id with
        children := if id = container then Link.withMember (graph.entity id).children member
          else (graph.entity id).children } := by
  unfold appendMissing
  rw [entity_update _ _ _ _ isPlace]
  by_cases isContainer : id = container
  · subst isContainer
    rw [if_pos rfl, if_pos rfl]
    unfold Link.withMember
    split <;> rfl
  · rw [if_neg isContainer, if_neg isContainer]

/-- One link changes the parent of its member, unless there is one, and the children
of its container. -/
theorem entity_addChild (graph : Graph) (container member id : EntityId)
    (isPlace : id < graph.size) :
    (graph.addChild container member).entity id =
      { graph.entity id with
        parent := if id = member then (graph.entity id).parent.or (some container)
          else (graph.entity id).parent
        children := if id = container then Link.withMember (graph.entity id).children member
          else (graph.entity id).children } := by
  unfold addChild
  rw [entity_appendMissing _ _ _ _ (by rw [size_update]; exact isPlace),
    entity_update _ _ _ _ isPlace]
  by_cases isMember : id = member
  · subst isMember
    rw [if_pos rfl, if_pos rfl]
    cases hasParent : (graph.entity id).parent with
    | none => rfl
    | some parent => simp [hasParent]
  · rw [if_neg isMember, if_neg isMember]

/-- A sequence of appended members, seen from one entity. -/
theorem entity_appendAll (links : List Link) (graph : Graph) (id : EntityId)
    (isPlace : id < graph.size) :
    (graph.appendAll links).entity id =
      { graph.entity id with
        children := (Link.members links id).foldl Link.withMember (graph.entity id).children } := by
  induction links generalizing graph with
  | nil => rfl
  | cons link rest inductionHypothesis =>
      have later := inductionHypothesis (graph.appendMissing link.1 link.2)
        (by rw [size_appendMissing]; exact isPlace)
      rw [entity_appendMissing _ _ _ _ isPlace] at later
      refine later.trans ?_
      unfold Link.members
      by_cases isContainer : id = link.1
      · simp [isContainer]
      · have other : ¬ link.1 = id := fun equal => isContainer equal.symm
        simp [isContainer, other]

/-- A sequence of links, seen from one entity: its first container becomes its parent
unless it has one, and its new members stand behind the old ones. -/
theorem entity_addChildren (links : List Link) (graph : Graph) (id : EntityId)
    (isPlace : id < graph.size) :
    (graph.addChildren links).entity id =
      { graph.entity id with
        parent := (graph.entity id).parent.or (Link.container? links id)
        children := (Link.members links id).foldl Link.withMember (graph.entity id).children } := by
  induction links generalizing graph with
  | nil => simp [addChildren, Link.members, Link.container?]
  | cons link rest inductionHypothesis =>
      have later := inductionHypothesis (graph.addChild link.1 link.2)
        (by rw [size_addChild]; exact isPlace)
      rw [entity_addChild _ _ _ _ isPlace] at later
      refine later.trans ?_
      have parents : (if id = link.2 then (graph.entity id).parent.or (some link.1)
          else (graph.entity id).parent).or (Link.container? rest id) =
            (graph.entity id).parent.or (Link.container? (link :: rest) id) := by
        unfold Link.container?
        by_cases isMember : id = link.2
        · simp [isMember]
        · have other : ¬ link.2 = id := fun equal => isMember equal.symm
          simp [isMember, other]
      have children : (Link.members rest id).foldl Link.withMember
          (if id = link.1 then Link.withMember (graph.entity id).children link.2
            else (graph.entity id).children) =
          (Link.members (link :: rest) id).foldl Link.withMember (graph.entity id).children := by
        unfold Link.members
        by_cases isContainer : id = link.1
        · simp [isContainer]
        · have other : ¬ link.1 = id := fun equal => isContainer equal.symm
          simp [isContainer, other]
      dsimp only
      rw [parents, children]

end Graph

end DocAtlas
