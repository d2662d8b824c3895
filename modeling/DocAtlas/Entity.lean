import DocAtlas.Entity.Kind
import DocAtlas.Value.Display

/-!
# Entities

This module holds the documentable entities and the graph that their containment
links form. An entity is named by its place in the graph. The links need not
form a tree: an entity may stand under several others, and links may loop.
-/

namespace DocAtlas

/-- A method with documentation, and where it is found. -/
structure Method where
  name : String
  summary : Value
  anchorUrl : Value
deriving Inhabited

/-- The place of an entity in a graph. -/
abbrev EntityId := Nat

/-- One thing that a site can document. What a manifest gives for a field is kept
as it is; only the full name is always a text. -/
structure Entity where
  name : Value
  fullName : String
  kind : Kind
  path : Value := .text ""
  documentsSelf : Value := .bool false
  superclass : Value := .null
  methods : List Method := []
  relativeName : Value := .text ""
  parent : Option EntityId := none
  children : List EntityId := []
deriving Inhabited

namespace Entity

/-- Whether there is documentation for an entity or for one of its methods. -/
def isDocumented (entity : Entity) : Bool :=
  entity.documentsSelf.isGiven || !entity.methods.isEmpty

/-- What says that an entity is documented: the value given for the entity itself, or
else whether it has methods. -/
def documentation (entity : Entity) : Value :=
  entity.documentsSelf.orElse (.bool (!entity.methods.isEmpty))

/-- What the navigation tree shows behind the name of a class: its superclass. -/
def inheritanceLabel (entity : Entity) : String :=
  if entity.kind = .moduleDef ∨ !entity.superclass.isGiven then ""
  else " < " ++ entity.superclass.display

/-- A file without a relative name goes by its full name. -/
def withRelativeName (entity : Entity) : Entity :=
  if entity.kind = .file ∧ !entity.relativeName.isGiven then
    { entity with relativeName := .text entity.fullName }
  else entity

end Entity

/-- The entities of a run with their links. -/
structure Graph where
  entities : Array Entity
deriving Inhabited

namespace Graph

/-- The graph without entities. -/
def empty : Graph := ⟨#[]⟩

/-- How many entities a graph has. -/
def size (graph : Graph) : Nat :=
  graph.entities.size

/-- The entity at a place; a place outside the graph stands for a blank entity. -/
def entity (graph : Graph) (id : EntityId) : Entity :=
  graph.entities[id]?.getD default

/-- A graph with one more entity, whose place is the size before. -/
def add (graph : Graph) (entity : Entity) : Graph :=
  ⟨graph.entities.push entity⟩

/-- Changes the entity at a place. -/
def update (graph : Graph) (id : EntityId) (change : Entity → Entity) : Graph :=
  ⟨graph.entities.modify id change⟩

/-- A change leaves the number of entities as it is. -/
@[simp] theorem size_update (graph : Graph) (id : EntityId) (change : Entity → Entity) :
    (graph.update id change).size = graph.size := by
  simp [size, update]

/-- A change is seen at its place and nowhere else. -/
theorem entity_update (graph : Graph) (id other : EntityId) (change : Entity → Entity)
    (isPlace : other < graph.size) :
    (graph.update id change).entity other =
      if other = id then change (graph.entity id) else graph.entity other := by
  unfold size at isPlace
  by_cases same : other = id
  · subst same
    simp [Graph.entity, update, isPlace, Array.getElem_modify_self]
  · have differs : ¬ id = other := fun equal => same equal.symm
    simp [Graph.entity, update, Array.getElem?_modify, same, differs]

/-- Appends a child unless it is there already. -/
def appendMissing (graph : Graph) (parent child : EntityId) : Graph :=
  graph.update parent fun entity =>
    if entity.children.contains child then entity
    else { entity with children := entity.children ++ [child] }

/-- Links a child under an entity. The first link decides the child's parent. -/
def addChild (graph : Graph) (parent child : EntityId) : Graph :=
  let adopted := graph.update child fun entity =>
    match entity.parent with
    | some _ => entity
    | none => { entity with parent := some parent }
  adopted.appendMissing parent child

/-- Whether the entity at a place is a class or module. -/
def isNamespace (graph : Graph) (id : EntityId) : Bool :=
  (graph.entity id).kind.isNamespace

/-- The classes and modules among the children, in containment order. -/
def nested (graph : Graph) (id : EntityId) : List EntityId :=
  (graph.entity id).children.filter graph.isNamespace

/-- The full name of the entity at a place. -/
def fullName (graph : Graph) (id : EntityId) : String :=
  (graph.entity id).fullName

end Graph

end DocAtlas
