import DocAtlas.Collection
import DocAtlas.Manifest.Record

/-!
# Manifests

This module turns a manifest into a collection of linked entities. All records
are read and the collection is checked before any link is made. Parent links come
first, in record order, and may not lead back to where they start; the `children`
lists then add further containment without changing anyone's parent.
-/

namespace DocAtlas.Manifest

/-- A class record beside the place of the class it gave. -/
abbrev Placed := Fields × EntityId

/-- The collection of a manifest before it is linked, with its class records. -/
structure Draft where
  collection : Collection
  records : List Placed

/-- Reads every record of a manifest: the classes, then the files. -/
def draftOf (value : Value) : Checked Draft :=
  match value with
  | .record fields => do
    let classRecords ← listedOf (Value.field "classes" fields)
    let classes ← classRecords.mapM classOf
    let fileRecords ← listedOf (Value.field "files" fields)
    let files ← fileRecords.mapM fileOf
    let records ← classRecords.mapM fieldsOf
    let places := List.range classes.length
    pure
      { collection :=
          { graph := ⟨(classes ++ files).toArray⟩
            classes := places
            files := (List.range files.length).map (classes.length + ·) }
        records := records.zip places }
  | _ => refuse .manifestNotRecord

/-- The entity that a reference names. -/
def resolve (collection : Collection) (owner : EntityId) (reference : Value) :
    Checked EntityId :=
  match reference with
  | .text name =>
    match collection.find? name with
    | some id => .ok id
    | none => refuse (.unresolved (collection.graph.fullName owner) reference)
  | .list _ => reject (.notKey .list)
  | .record _ => reject (.notKey .record)
  | _ => refuse (.unresolved (collection.graph.fullName owner) reference)

/-- Links each class under the parent that its record names. -/
def linkParents (names : Collection) : List Placed → Graph → Checked Graph
  | [], graph => pure graph
  | (fields, id) :: rest, graph =>
    let reference := Value.field "parent" fields
    if reference.isGiven then do
      let parent ← resolve names id reference
      linkParents names rest (graph.addChild parent id)
    else linkParents names rest graph

/-- The names met on the way up from `current` to `start`, when the way leads
there; `chain` holds those met before. A way that loops elsewhere, or that is
longer than the allowance, leads nowhere. -/
def chainTo (graph : Graph) (start : EntityId) :
    (allowance : Nat) → (chain : List String) → (current : EntityId) → Option (List String)
  | 0, _, _ => none
  | allowance + 1, chain, current =>
    let name := graph.fullName current
    if current = start then some (chain ++ [name])
    else if chain.contains name then none
    else
      match (graph.entity current).parent with
      | some parent => chainTo graph start allowance (chain ++ [name]) parent
      | none => none

/-- The names on the cycle of parent links that an entity lies on, behind its own. -/
def parentCycle? (graph : Graph) (id : EntityId) : Option (List String) :=
  match (graph.entity id).parent with
  | some parent =>
    (chainTo graph id (graph.size + 1) [graph.fullName id] parent).map (·.drop 1)
  | none => none

/-- Refuses the first of the entities that lies on a cycle of parent links. -/
def checkAncestry (graph : Graph) : List EntityId → Checked Unit
  | [] => pure ()
  | id :: rest =>
    match parentCycle? graph id with
    | some others => refuse (.parentCycle (graph.fullName id) others)
    | none => checkAncestry graph rest

/-- Adds the entities that references name to the children of one entity. -/
def addAliases (names : Collection) (owner : EntityId) : List Value → Graph → Checked Graph
  | [], graph => pure graph
  | reference :: rest, graph => do
    let child ← resolve names owner reference
    addAliases names owner rest (graph.appendMissing owner child)

/-- Adds what the `children` lists of the records name. -/
def linkAliases (names : Collection) : List Placed → Graph → Checked Graph
  | [], graph => pure graph
  | (fields, id) :: rest, graph => do
    let references ← listedOf (Value.field "children" fields)
    linkAliases names rest (← addAliases names id references graph)

/-- Links a checked draft. -/
def Draft.link (draft : Draft) : Checked Collection := do
  let names := draft.collection
  let parented ← linkParents names draft.records names.graph
  checkAncestry parented names.classes
  let graph ← linkAliases names draft.records parented
  pure { names with graph }

/-- The collection of linked entities that a manifest gives. -/
def load (value : Value) : Checked Collection := do
  let draft ← draftOf value
  draft.collection.validate
  draft.link

end DocAtlas.Manifest
