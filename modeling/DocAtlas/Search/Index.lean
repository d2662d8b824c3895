import DocAtlas.Entity.Documentation
import DocAtlas.Json.Printer
import DocAtlas.Search.NameIndex

/-!
# Search index

This module makes the flat list of records that a site searches, and the index of
their names. Entities go in order of full name, each full name once;
a documented entity gives its own record and behind it one for each method.
-/

namespace DocAtlas

/-- Records and the index of their names. -/
structure SearchIndex where
  records : List SearchRecord
  names : NameIndex Int
deriving Inhabited

namespace Graph

/-- Entities in order of full name; equal names keep their order. -/
def byFullName (graph : Graph) (ids : List EntityId) : List EntityId :=
  ids.mergeSort fun left right => graph.fullName left ≤ graph.fullName right

/-- The first entity of each full name, past the names already seen. -/
def firstOfEachName (graph : Graph) : List EntityId → (seen : List String) → List EntityId
  | [], _ => []
  | id :: rest, seen =>
    let name := graph.fullName id
    if seen.contains name then firstOfEachName graph rest seen
    else id :: firstOfEachName graph rest (name :: seen)

/-- The entities that an index is made from, in order. -/
def indexed (graph : Graph) (classes : List EntityId) : List EntityId :=
  graph.firstOfEachName (graph.byFullName classes) []

/-- The records of one entity: its own, if it is documented, and its methods'. -/
def recordsOf (graph : Graph) (id : EntityId) : List SearchRecord :=
  let entity := graph.entity id
  let own :=
    if entity.isDocumented then [.entity entity.kind.word entity.fullName entity.path] else []
  own ++ entity.methods.map fun method =>
    .method entity.fullName method.name method.summary method.anchorUrl

/-- The search index of classes and modules. -/
def searchIndex (graph : Graph) (classes : List EntityId) : SearchIndex :=
  let records := ((graph.indexed classes).filter graph.hasDocumentation).flatMap graph.recordsOf
  ⟨records, NameIndex.ofRecords records⟩

/-- How many of the entities an index leaves out as undocumented. -/
def undocumentedCount (graph : Graph) (classes : List EntityId) : Nat :=
  ((graph.indexed classes).filter fun id => !graph.hasDocumentation id).length

end Graph

namespace SearchIndex

/-- The wire form of the records. -/
def wire (index : SearchIndex) : Value :=
  .list (index.records.map SearchRecord.wire)

/-- The records as compact JSON. -/
def dumpRecords (index : SearchIndex) : String :=
  Json.compact index.wire

/-- The name index as compact JSON. -/
def dumpNames (index : SearchIndex) : String :=
  Json.compact index.names.wire

end SearchIndex

end DocAtlas
