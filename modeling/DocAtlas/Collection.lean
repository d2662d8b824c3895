import DocAtlas.Entity
import DocAtlas.Fault

/-!
# Collections

This module holds the entities that one run is about, and the check of
what an extractor promises of them: names are given, full names are unique over
both lists, and every entity sits in the list of its kind.
-/

namespace DocAtlas

/-- The entities of one run: classes and modules in one list, files in another. -/
structure Collection where
  graph : Graph
  classes : List EntityId
  files : List EntityId
deriving Inhabited

namespace Graph

/-- Checks that an entity has a full name and a name. -/
def checkNames (graph : Graph) (id : EntityId) : Checked Unit :=
  let entity := graph.entity id
  if entity.fullName = "" then refuse (.missingField "full_name" entity.name)
  else if !entity.name.isGiven then refuse (.missingField "name" (.text entity.fullName))
  else .ok ()

/-- Checks a class or module: its names, then its kind. -/
def checkClass (graph : Graph) (id : EntityId) : Checked Unit := do
  graph.checkNames id
  if graph.isNamespace id then pure ()
  else refuse (.misplaced "a class or module" (graph.entity id).kind (graph.fullName id))

/-- Checks a file: its names, then its kind, then its relative name. -/
def checkFile (graph : Graph) (id : EntityId) : Checked Unit := do
  graph.checkNames id
  let entity := graph.entity id
  if entity.kind ≠ .file then refuse (.misplaced "a file" entity.kind entity.fullName)
  else if !entity.relativeName.isGiven then
    refuse (.missingField "relative_name" (.text entity.fullName))
  else pure ()

/-- Checks entities in order, each by `check` and then for a full name that none
before it has; answers the full names seen. -/
def checkDistinct (graph : Graph) (check : EntityId → Checked Unit) :
    List EntityId → (seen : List String) → Checked (List String)
  | [], seen => pure seen
  | id :: rest, seen => do
    check id
    if seen.contains (graph.fullName id) then refuse (.duplicate (graph.fullName id))
    else checkDistinct graph check rest (graph.fullName id :: seen)

end Graph

namespace Collection

/-- Checks classes and then files, with full names unique over both. -/
def validate (collection : Collection) : Checked Unit := do
  let graph := collection.graph
  let seen ← graph.checkDistinct graph.checkClass collection.classes []
  let _ ← graph.checkDistinct graph.checkFile collection.files seen
  pure ()

/-- How many entities a collection lists. -/
def size (collection : Collection) : Nat :=
  collection.classes.length + collection.files.length

/-- The entity with a full name, classes before files. -/
def find? (collection : Collection) (fullName : String) : Option EntityId :=
  (collection.classes ++ collection.files).find? fun id => collection.graph.fullName id == fullName

end Collection

end DocAtlas
