import DocAtlas.Entity
import DocAtlas.Fault

/-!
# Keys of an open branch

This module names the branches that lead to a page, from the top down. A class or
module is reached through the full names of what encloses it, a file through the
label of the file group and the growing path below it.
-/

namespace DocAtlas

namespace Graph

/-- The full names met on the way up from an entity through classes and modules,
each once, in front of those already met. -/
def climb (graph : Graph) :
    (allowance : Nat) → (below : List String) → (current : Option EntityId) → List String
  | allowance + 1, below, some id =>
    let name := graph.fullName id
    if graph.isNamespace id ∧ !below.contains name then
      graph.climb allowance (name :: below) (graph.entity id).parent
    else below
  | _, below, _ => below

end Graph

/-- The non-empty beginnings of a list, shortest first. -/
def beginnings {α : Type} : List α → List (List α)
  | [] => []
  | item :: rest => [item] :: (beginnings rest).map (item :: ·)

/-- The keys of a file branch: the label, then the label with each beginning of
the path. -/
def fileKeys (label : String) (segments : List String) : List String :=
  label :: (beginnings segments).map fun beginning =>
    label ++ "/" ++ Text.joinSegments beginning

/-- The keys of a file branch below a label of any shape. Nothing is put behind a label
that is no text, so it can only stand alone. -/
def fileKeysBelow (label : Value) (segments : List String) : Checked (List Value) :=
  match label with
  | .text label => .ok ((fileKeys label segments).map .text)
  | other => if segments.isEmpty then .ok [other] else reject (.notText other.shape)

/-- The keys to open for an entity, from the top down. -/
def Graph.openKeys (graph : Graph) (id : EntityId) (label : Value) : Checked (List Value) :=
  if graph.isNamespace id then .ok ((graph.climb (graph.size + 1) [] (some id)).map .text)
  else
    match (graph.entity id).relativeName with
    | .text name => fileKeysBelow label (Text.segments name)
    | other => reject (.lacks other.shape "split")

end DocAtlas
