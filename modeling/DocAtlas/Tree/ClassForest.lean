import DocAtlas.Collection
import DocAtlas.Entity.Documentation
import DocAtlas.Tree.Node
import DocAtlas.Value.Sorting

/-!
# Class forest

This module spans the classes and modules of a run by a forest and turns it into
nodes. The names claimed are kept from one level to the next, so an entity that
several others contain has one place: under the first of them that is walked.
Siblings are sorted by name and then by full name, and an entity without
documentation at or below it is left out.
-/

namespace DocAtlas

/-- A place in the forest: an entity and the branches below it. -/
inductive Branch where
  | mk (entity : EntityId) (children : List Branch)
deriving Inhabited

/-- The entity of a branch. -/
def Branch.entity : Branch → EntityId
  | mk entity _ => entity

/-- The branches directly below a branch. -/
def Branch.children : Branch → List Branch
  | mk _ children => children

/-- What a walk came upon besides its branches. -/
inductive Remark where
  /-- An entity that an earlier sibling's branch had claimed by then. -/
  | claimed (fullName : String)
  /-- A level that cannot be sorted or keyed. -/
  | failed (failure : Failure)

/-- What a walk over some entities gives: branches, the names claimed so far and
the remarks, in order. -/
structure Walk where
  branches : List Branch
  claimed : List String
  remarks : List Remark

namespace Graph

/-- Entities that stand at the top: those whose parent is no class or module. -/
def roots (graph : Graph) (classes : List EntityId) : List EntityId :=
  classes.filter fun id =>
    match (graph.entity id).parent with
    | some parent => !graph.isNamespace parent
    | none => true

/-- How the names of two siblings compare; equal names compare by full name. -/
def compareSiblings (graph : Graph) (left right : EntityId) : Value.Comparison :=
  let first := graph.entity left
  let second := graph.entity right
  if Value.same first.name second.name then
    if first.fullName < second.fullName then .before else .notBefore
  else Value.compareBefore first.name second.name

/-- Whether a sibling comes strictly before another one, or the misfit between their
names. -/
def isSiblingBefore (graph : Graph) (left right : EntityId) : Except Misfit Bool :=
  (graph.compareSiblings left right).checked

/-- The candidates that a level takes up: unclaimed and documented at or below. -/
def eligible (graph : Graph) (candidates : List EntityId) (claimed : List String) :
    List EntityId :=
  candidates.filter fun id =>
    !claimed.contains (graph.fullName id) && graph.hasDocumentation id

/-- The candidates that a level takes up, sorted as siblings. A candidate without full
name and two siblings without an order keep a level from being made. -/
def levelOrder (graph : Graph) (candidates : List EntityId) (claimed : List String) :
    Checked (List EntityId) :=
  match candidates.find? fun id => graph.fullName id = "" with
  | some id => refuse (.missingField "full_name" (graph.entity id).name)
  | none =>
    (Sorting.sortKeyed (fun id => (graph.entity id).name) graph.isSiblingBefore
      (graph.eligible candidates claimed)).mapError Failure.misfit

/-- Takes up siblings in order, each with the branches that `descend` gives for
it; nothing when a descent ran out of allowance. -/
def takeSiblings (graph : Graph) (descend : EntityId → List String → Option Walk) :
    List EntityId → (claimed : List String) → Option Walk
  | [], claimed => some ⟨[], claimed, []⟩
  | id :: rest, claimed =>
    let name := graph.fullName id
    if claimed.contains name then do
      let walk ← takeSiblings graph descend rest claimed
      pure { walk with remarks := .claimed name :: walk.remarks }
    else do
      let below ← descend id (name :: claimed)
      let walk ← takeSiblings graph descend rest below.claimed
      pure
        { branches := .mk id below.branches :: walk.branches
          claimed := walk.claimed
          remarks := below.remarks ++ walk.remarks }

/-- Walks a level of candidates and everything below it, past the names claimed,
with the given allowance of nested levels. -/
def walkLevel (graph : Graph) :
    (allowance : Nat) → (candidates : List EntityId) → (claimed : List String) → Option Walk
  | 0, _, _ => none
  | allowance + 1, candidates, claimed =>
    match graph.levelOrder candidates claimed with
    | .error failure => some ⟨[], claimed, [.failed failure]⟩
    | .ok chosen =>
      graph.takeSiblings (fun id claimed => walkLevel graph allowance (graph.nested id) claimed)
        chosen claimed

/-- The walk over the top entities of a run. Every level but the last claims a new
name, so the allowance is never used up. -/
def walk (graph : Graph) (classes : List EntityId) : Walk :=
  (graph.walkLevel (graph.size + 2) (graph.roots classes) []).getD ⟨[], [], []⟩

mutual

/-- The node of a branch. Only a documented entity shows its path. -/
def toNode (graph : Graph) : Branch → Node
  | .mk id children =>
    let entity := graph.entity id
    .entity entity.name (if entity.isDocumented then entity.path else .text "")
      entity.inheritanceLabel (toNodes graph children)

/-- The nodes of branches, in order. -/
def toNodes (graph : Graph) : List Branch → List Node
  | [] => []
  | branch :: rest => toNode graph branch :: toNodes graph rest

end

/-- The first failure among remarks. -/
def firstFailure? (remarks : List Remark) : Option Failure :=
  remarks.findSome? fun remark =>
    match remark with
    | .failed failure => some failure
    | .claimed _ => none

/-- The names that a walk passed over before it failed, or all of them. -/
def passedOver : List Remark → List String
  | .claimed name :: rest => name :: passedOver rest
  | _ => []

/-- The nodes of the classes and modules of a run. -/
def classTree (graph : Graph) (classes : List EntityId) : Checked (List Node) :=
  let walk := graph.walk classes
  match firstFailure? walk.remarks with
  | some failure => .error failure
  | none => .ok (graph.toNodes walk.branches)

end Graph

end DocAtlas
