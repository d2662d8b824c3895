import DocAtlas.Entity.Documentation
import DocAtlas.Proofs.Entity.Containment

/-!
# Alike graphs

Two graphs are alike when they tell the same of entities with the same full name,
wherever these stand and in whichever order links were made. A run shows less than a
graph tells: it passes over the classes and modules without documentation. So one graph
may show no more than another one although they are not alike. This module holds both
comparisons; that alike graphs show no more than each other is what they have in common.
-/

namespace DocAtlas

/-- An entity without its links. -/
def Entity.unlinked (entity : Entity) : Entity :=
  { entity with parent := none, children := [] }

namespace Graph

/-- Entities of two graphs that have the same full name. -/
structure IsCounterpart (left right : Graph) (id other : EntityId) : Prop where
  isPlace : id < left.size
  isOtherPlace : other < right.size
  sameName : left.fullName id = right.fullName other

/-- Being a counterpart is mutual. -/
theorem IsCounterpart.symm {left right : Graph} {id other : EntityId}
    (pair : IsCounterpart left right id other) : IsCounterpart right left other id :=
  ⟨pair.isOtherPlace, pair.isPlace, pair.sameName.symm⟩

/-- Graphs that tell the same of counterparts. -/
structure IsAlike (left right : Graph) : Prop where
  forth : ∀ id, id < left.size → ∃ other, IsCounterpart left right id other
  back : ∀ other, other < right.size → ∃ id, IsCounterpart left right id other
  unlinked : ∀ id other, IsCounterpart left right id other →
    (left.entity id).unlinked = (right.entity other).unlinked
  hasParent : ∀ child otherChild parent otherParent,
    IsCounterpart left right child otherChild → IsCounterpart left right parent otherParent →
      (left.HasParent child parent ↔ right.HasParent otherChild otherParent)
  mem_children : ∀ child otherChild parent otherParent,
    IsCounterpart left right child otherChild → IsCounterpart left right parent otherParent →
      (child ∈ (left.entity parent).children ↔ otherChild ∈ (right.entity otherParent).children)

/-- Being alike is mutual. -/
theorem IsAlike.symm {left right : Graph} (alike : IsAlike left right) :
    IsAlike right left where
  forth := fun id isPlace => (alike.back id isPlace).imp fun _ pair => pair.symm
  back := fun other isPlace => (alike.forth other isPlace).imp fun _ pair => pair.symm
  unlinked := fun id other pair => (alike.unlinked other id pair.symm).symm
  hasParent := fun child otherChild parent otherParent children parents =>
    (alike.hasParent otherChild child otherParent parent children.symm parents.symm).symm
  mem_children := fun child otherChild parent otherParent children parents =>
    (alike.mem_children otherChild child otherParent parent children.symm parents.symm).symm

/-- Whether a run can show an entity: a file in any case, a class or module when it has
documentation. -/
def IsShown (graph : Graph) (id : EntityId) : Prop :=
  id < graph.size ∧ (graph.isNamespace id = true → graph.hasDocumentation id = true)

/-- What one graph shows has counterparts in another graph, which tells the same of them and
has all the links between them. -/
structure ShowsNoMore (left right : Graph) : Prop where
  forth : ∀ id, left.IsShown id → ∃ other, IsCounterpart left right id other
  unlinked : ∀ id other, left.IsShown id → IsCounterpart left right id other →
    (left.entity id).unlinked = (right.entity other).unlinked
  hasParent : ∀ child otherChild parent otherParent, left.IsShown child → left.IsShown parent →
    IsCounterpart left right child otherChild → IsCounterpart left right parent otherParent →
      left.HasParent child parent → right.HasParent otherChild otherParent
  mem_children : ∀ child otherChild parent otherParent, left.IsShown child → left.IsShown parent →
    IsCounterpart left right child otherChild → IsCounterpart left right parent otherParent →
      child ∈ (left.entity parent).children → otherChild ∈ (right.entity otherParent).children

/-- Of alike graphs neither shows more than the other. -/
theorem IsAlike.showsNoMore {left right : Graph} (alike : IsAlike left right) :
    ShowsNoMore left right where
  forth := fun id isShown => alike.forth id isShown.1
  unlinked := fun id other _ pair => alike.unlinked id other pair
  hasParent := fun child otherChild parent otherParent _ _ children parents =>
    (alike.hasParent child otherChild parent otherParent children parents).mp
  mem_children := fun child otherChild parent otherParent _ _ children parents =>
    (alike.mem_children child otherChild parent otherParent children parents).mp

end Graph

end DocAtlas
