import DocAtlas.Entity

/-!
# Documentation below an entity

This module decides whether an entity or anything nested in it is documented.
The search goes depth first, enters each full name once and stops at the first
documented entity. Nested calls are counted: every one but the last enters a new
name, so an allowance of two more than the entities of the graph is never used up.
-/

namespace DocAtlas.Graph

/-- Runs a search over entities in order with one set of names seen, up to the
first success; nothing when a search ran out of allowance. -/
def searchAny (search : EntityId → List String → Option (Bool × List String)) :
    List EntityId → List String → Option (Bool × List String)
  | [], seen => some (false, seen)
  | id :: rest, seen =>
    match search id seen with
    | none => none
    | some (true, seen) => some (true, seen)
    | some (false, seen) => searchAny search rest seen

/-- Searches an entity and what is nested in it for documentation, past the names
already seen, with the given allowance of nested calls. -/
def searchDocumented (graph : Graph) :
    (allowance : Nat) → EntityId → (seen : List String) → Option (Bool × List String)
  | 0, _, _ => none
  | allowance + 1, id, seen =>
    let entity := graph.entity id
    if seen.contains entity.fullName then some (false, seen)
    else if entity.isDocumented then some (true, entity.fullName :: seen)
    else searchAny (searchDocumented graph allowance) (graph.nested id) (entity.fullName :: seen)

/-- Whether an entity or any class or module nested in it is documented. -/
def hasDocumentation (graph : Graph) (id : EntityId) : Bool :=
  match graph.searchDocumented (graph.size + 2) id [] with
  | some (found, _) => found
  | none => false

end DocAtlas.Graph
