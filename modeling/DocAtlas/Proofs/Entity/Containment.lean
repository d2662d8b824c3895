import DocAtlas.Entity
import Mathlib.Data.Finset.Card
import Mathlib.Logic.Relation

/-!
# Containment

This module holds the relations that the links of a graph form, and the stock of
full names that bounds every walk along them. Containment need not be acyclic and
an entity may have several containers, so a walk is measured by the names that it
has not met, not by the entities below it.
-/

namespace DocAtlas.Graph

/-- One entity contains another one as a nested class or module. -/
def Contains (graph : Graph) (parent child : EntityId) : Prop :=
  child ∈ graph.nested parent

/-- An entity is reached from another one through zero or more containments. -/
def Reaches (graph : Graph) : EntityId → EntityId → Prop :=
  Relation.ReflTransGen graph.Contains

/-- One entity is the parent of another one. -/
def HasParent (graph : Graph) (child parent : EntityId) : Prop :=
  (graph.entity child).parent = some parent

/-- A container has its members among its children. -/
theorem contains_iff {graph : Graph} {parent child : EntityId} :
    graph.Contains parent child ↔
      child ∈ (graph.entity parent).children ∧ graph.isNamespace child = true := by
  simp [Contains, nested]

/-- The entity of a place is one of those in the graph. -/
theorem entity_mem {graph : Graph} {id : EntityId} (isPlace : id < graph.size) :
    graph.entity id ∈ graph.entities.toList := by
  unfold size at isPlace
  unfold entity
  rw [Array.getElem?_eq_getElem isPlace]
  exact Array.getElem_mem_toList isPlace

/-- A place outside a graph stands for the blank entity. -/
theorem entity_outside {graph : Graph} {id : EntityId} (outside : graph.size ≤ id) :
    graph.entity id = default := by
  unfold entity
  rw [Array.getElem?_eq_none outside]
  rfl

/-- The blank entity outside a graph contains nothing, so a container has a place. -/
theorem Contains.lt_size {graph : Graph} {parent child : EntityId}
    (contains : graph.Contains parent child) : parent < graph.size := by
  by_contra outside
  have blank := entity_outside (Nat.le_of_not_lt outside)
  have isChild := (contains_iff.mp contains).1
  rw [blank] at isChild
  exact absurd isChild List.not_mem_nil

/-- The blank entity has no parent either. -/
theorem HasParent.lt_size {graph : Graph} {child parent : EntityId}
    (hasParent : graph.HasParent child parent) : child < graph.size := by
  by_contra outside
  unfold HasParent at hasParent
  rw [entity_outside (Nat.le_of_not_lt outside)] at hasParent
  cases hasParent

/-- How many names of a stock a list leaves out. -/
def unmet (names : Finset String) (met : List String) : Nat :=
  (names \ met.toFinset).card

/-- The more names are met, the fewer are left. -/
theorem unmet_le_of_subset {names : Finset String} {met after : List String}
    (subset : met ⊆ after) : unmet names after ≤ unmet names met := by
  apply Finset.card_le_card
  apply Finset.sdiff_subset_sdiff (Finset.Subset.refl _)
  intro name isMet
  rw [List.mem_toFinset] at isMet ⊢
  exact subset isMet

/-- Meeting a new name of the stock uses it up. -/
theorem unmet_cons_lt {names : Finset String} {name : String} {met : List String}
    (isName : name ∈ names) (isNew : name ∉ met) :
    unmet names (name :: met) < unmet names met := by
  apply Finset.card_lt_card
  refine ⟨?_, fun covers => ?_⟩
  · apply Finset.sdiff_subset_sdiff (Finset.Subset.refl _)
    intro other isMet
    rw [List.mem_toFinset] at isMet ⊢
    exact List.mem_cons_of_mem _ isMet
  · have left : name ∈ names \ met.toFinset :=
      Finset.mem_sdiff.mpr ⟨isName, by simpa using isNew⟩
    have gone := (Finset.mem_sdiff.mp (covers left)).2
    simp at gone

/-- The full names that occur in a graph. A place outside it has the empty name. -/
def stock (graph : Graph) : Finset String :=
  insert "" (graph.entities.toList.map Entity.fullName).toFinset

/-- How many names of the stock a list leaves out. -/
def unseen (graph : Graph) (seen : List String) : Nat :=
  (graph.stock \ seen.toFinset).card

/-- The full name of every entity is in stock, also of one outside the graph. -/
theorem fullName_mem_stock (graph : Graph) (id : EntityId) :
    graph.fullName id ∈ graph.stock := by
  unfold fullName stock
  by_cases isPlace : id < graph.size
  · apply Finset.mem_insert_of_mem
    rw [List.mem_toFinset]
    exact List.mem_map.mpr ⟨_, entity_mem isPlace, rfl⟩
  · rw [entity_outside (Nat.le_of_not_lt isPlace)]
    exact Finset.mem_insert_self _ _

/-- There is one name for each entity at most, and the empty one. -/
theorem unseen_nil_le (graph : Graph) : graph.unseen [] ≤ graph.size + 1 := by
  have bound : (graph.entities.toList.map Entity.fullName).toFinset.card ≤ graph.size := by
    refine (List.toFinset_card_le _).trans ?_
    simp [size]
  have inserted := Finset.card_insert_le ""
    (graph.entities.toList.map Entity.fullName).toFinset
  unfold unseen stock
  rw [List.toFinset_nil, Finset.sdiff_empty]
  omega

/-- Meeting a new entity uses up one name. -/
theorem unseen_cons_lt {graph : Graph} {id : EntityId} {seen : List String}
    (isNew : graph.fullName id ∉ seen) :
    graph.unseen (graph.fullName id :: seen) < graph.unseen seen :=
  unmet_cons_lt (graph.fullName_mem_stock id) isNew

end DocAtlas.Graph
