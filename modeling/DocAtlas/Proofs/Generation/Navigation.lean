import DocAtlas.Proofs.Generation.Products
import DocAtlas.Proofs.Tree.ClassTree

/-!
# Navigation and search

The class tree is a walk over links with pruning, the search index a flat list in order of
full name. For a loaded manifest both show the same documented entities, each of them once
and under the same path.
-/

namespace DocAtlas

namespace Node

/-- The address that a node shows. -/
def path : Node → Value
  | entity _ path _ _ => path
  | group _ _ => .text ""
  | page _ url => .text url

mutual

/-- A node and all below it, each in front of those below it. -/
def subtree : Node → List Node
  | entity name path suffix children => entity name path suffix children :: preorder children
  | group label children => group label children :: preorder children
  | page name url => [page name url]

/-- The nodes of a forest in preorder. -/
def preorder : List Node → List Node
  | [] => []
  | node :: rest => subtree node ++ preorder rest

end

end Node

namespace SearchRecord

/-- Whether a record is that of an entity. -/
def isEntity : SearchRecord → Bool
  | entity _ _ _ => true
  | method _ _ _ _ => false

/-- Whether a record is that of the entity with a full name. -/
def describes (fullName : String) : SearchRecord → Bool
  | entity _ name _ => name == fullName
  | method _ _ _ _ => false

end SearchRecord

namespace Graph

/-- The nodes of a forest are those of its branches, in the same order. -/
theorem preorder_toNodes (graph : Graph) : (forest : List Branch) →
    Node.preorder (graph.toNodes forest) = (Branch.preorder forest).map graph.toNode
  | [] => rfl
  | .mk id below :: rest => by
      rw [Branch.preorder_cons, List.map_cons, List.map_append, toNodes, toNode, Node.preorder,
        Node.subtree, preorder_toNodes graph below, preorder_toNodes graph rest]
      rfl

/-- Whatever is documented itself has documentation. -/
theorem hasDocumentation_of_isDocumented {graph : Graph} {id : EntityId}
    (documented : (graph.entity id).isDocumented = true) : graph.hasDocumentation id = true := by
  unfold hasDocumentation searchDocumented
  simp [documented]

/-- The record of an entity itself. -/
def ownRecord (graph : Graph) (id : EntityId) : SearchRecord :=
  .entity (graph.entity id).kind.word (graph.fullName id) (graph.entity id).path

/-- Of an entity there is its own record when it is documented. -/
theorem filter_isEntity_recordsOf (graph : Graph) (id : EntityId) :
    (graph.recordsOf id).filter SearchRecord.isEntity =
      if (graph.entity id).isDocumented then [graph.ownRecord id] else [] := by
  have methods : ((graph.entity id).methods.map fun method =>
      SearchRecord.method (graph.entity id).fullName method.name method.summary
        method.anchorUrl).filter SearchRecord.isEntity = [] := by
    simp [SearchRecord.isEntity]
  unfold recordsOf
  dsimp only
  rw [List.filter_append, methods, List.append_nil]
  split <;> rfl

/-- The entities that have records of their own are the documented ones. -/
theorem filter_isEntity_records (graph : Graph) (ids : List EntityId) :
    ((ids.filter graph.hasDocumentation).flatMap graph.recordsOf).filter SearchRecord.isEntity =
      (ids.filter fun id => (graph.entity id).isDocumented).map graph.ownRecord := by
  induction ids with
  | nil => rfl
  | cons id rest inductionHypothesis =>
      by_cases documented : (graph.entity id).isDocumented = true
      · rw [List.filter_cons_of_pos (hasDocumentation_of_isDocumented documented),
          List.filter_cons, if_pos documented, List.flatMap_cons, List.filter_append,
          filter_isEntity_recordsOf, if_pos documented, inductionHypothesis]
        rfl
      · have isLeftOut : (id :: rest).filter (fun id => (graph.entity id).isDocumented) =
            rest.filter fun id => (graph.entity id).isDocumented :=
          List.filter_cons_of_neg documented
        rw [isLeftOut, ← inductionHypothesis, List.filter_cons]
        split
        · rw [List.flatMap_cons, List.filter_append, filter_isEntity_recordsOf, if_neg documented]
          rfl
        · rfl

/-- Only a documented entity has records. -/
theorem isDocumented_of_mem_recordsOf {graph : Graph} {id : EntityId} {record : SearchRecord}
    (isRecord : record ∈ graph.recordsOf id) : (graph.entity id).isDocumented = true := by
  unfold recordsOf at isRecord
  rcases List.mem_append.mp isRecord with isOwn | isMethod
  · by_contra undocumented
    rw [if_neg undocumented] at isOwn
    exact absurd isOwn List.not_mem_nil
  · have hasMethods : (graph.entity id).methods ≠ [] := by
      rintro isEmpty
      rw [isEmpty] at isMethod
      exact absurd isMethod List.not_mem_nil
    simp [Entity.isDocumented, hasMethods]

/-- The methods of an entity have its full name for an owner. -/
theorem owner_of_mem_recordsOf {graph : Graph} {id : EntityId} {owner name : String}
    {summary anchorUrl : Value}
    (isRecord : .method owner name summary anchorUrl ∈ graph.recordsOf id) :
    graph.fullName id = owner := by
  unfold recordsOf at isRecord
  rcases List.mem_append.mp isRecord with isOwn | isMethod
  · split at isOwn
    · exact absurd (List.mem_singleton.mp isOwn) nofun
    · exact absurd isOwn List.not_mem_nil
  · obtain ⟨method, -, same⟩ := List.mem_map.mp isMethod
    exact (SearchRecord.method.inj same).1

end Graph

namespace Collection

/-- The entities that the class tree shows, each beside its node, in preorder. -/
def emitted (collection : Collection) : List (EntityId × Node) :=
  (Branch.preorder collection.forest).map fun branch =>
    (branch.entity, collection.graph.toNode branch)

/-- The records that are searched for a collection. -/
def records (collection : Collection) : List SearchRecord :=
  (collection.graph.searchIndex collection.classes).records

/-- Whether the entity of an emitted node is documented itself. -/
def isShownDocumented (collection : Collection) (shown : EntityId × Node) : Bool :=
  (collection.graph.entity shown.1).isDocumented

/-- The record that says the same as an emitted node: the full name of the entity with the
path of the node. -/
def recordOf (collection : Collection) (shown : EntityId × Node) : SearchRecord :=
  .entity (collection.graph.entity shown.1).kind.word (collection.graph.fullName shown.1)
    shown.2.path

/-- The nodes of the class tree are emitted for the entities of the forest. -/
theorem emitted_entities (collection : Collection) :
    collection.emitted.map Prod.fst = Branch.entities collection.forest := by
  unfold emitted Branch.entities
  rw [List.map_map]
  rfl

/-- An emitted node has the path of its entity when that is documented, and else none. -/
theorem path_of_emitted {collection : Collection} {shown : EntityId × Node}
    (isEmitted : shown ∈ collection.emitted) :
    shown.2.path = if collection.isShownDocumented shown then
      (collection.graph.entity shown.1).path else .text "" := by
  obtain ⟨⟨id, below⟩, -, rfl⟩ := List.mem_map.mp isEmitted
  rfl

namespace IsLinked

variable {collection : Collection} (linked : collection.IsLinked)
include linked

/-- The records of a collection are those of its classes and modules. -/
theorem mem_records_iff {record : SearchRecord} :
    record ∈ collection.records ↔
      ∃ id ∈ collection.classes, record ∈ collection.graph.recordsOf id := by
  have perm := collection.graph.byFullName_perm collection.classes
  unfold records Graph.searchIndex
  rw [linked.indexed_eq, List.mem_flatMap]
  constructor
  · rintro ⟨id, isThere, isRecord⟩
    exact ⟨id, perm.mem_iff.mp (List.mem_of_mem_filter isThere), isRecord⟩
  · rintro ⟨id, isClass, isRecord⟩
    have documented := Graph.isDocumented_of_mem_recordsOf isRecord
    exact ⟨id, List.mem_filter.mpr ⟨perm.mem_iff.mpr isClass,
      Graph.hasDocumentation_of_isDocumented documented⟩, isRecord⟩

/-- The emitted entities that are documented are the documented classes and modules. -/
theorem documented_perm :
    ((collection.emitted.filter collection.isShownDocumented).map Prod.fst).Perm
      ((collection.graph.byFullName collection.classes).filter
        fun id => (collection.graph.entity id).isDocumented) := by
  have shown : (collection.emitted.filter collection.isShownDocumented).map Prod.fst =
      (Branch.entities collection.forest).filter
        fun id => (collection.graph.entity id).isDocumented := by
    rw [← emitted_entities, List.filter_map]
    rfl
  have perm := collection.graph.byFullName_perm collection.classes
  rw [shown]
  refine (List.perm_ext_iff_of_nodup (linked.nodup_forest.filter _)
    ((perm.nodup_iff.mpr linked.nodup_classes).filter _)).mpr fun id => ?_
  rw [List.mem_filter, List.mem_filter, linked.mem_forest, perm.mem_iff]
  constructor
  · rintro ⟨⟨isClass, -⟩, documented⟩
    exact ⟨isClass, documented⟩
  · rintro ⟨isClass, documented⟩
    exact ⟨⟨isClass, Graph.hasDocumentation_of_isDocumented documented⟩, documented⟩

/-- No full name is emitted twice. -/
theorem nodup_emitted_names :
    (collection.emitted.map fun shown => collection.graph.fullName shown.1).Nodup := by
  have names := linked.nodup_fullNames linked.forest_places linked.nodup_forest
  rw [← emitted_entities, List.map_map] at names
  exact names

/-- The records of entities are those of the emitted nodes of documented entities. -/
theorem entityRecords_perm :
    (collection.records.filter SearchRecord.isEntity).Perm
      ((collection.emitted.filter collection.isShownDocumented).map collection.recordOf) := by
  have sameRecords : (collection.emitted.filter collection.isShownDocumented).map
      collection.recordOf = ((collection.emitted.filter collection.isShownDocumented).map
        Prod.fst).map collection.graph.ownRecord := by
    rw [List.map_map]
    refine List.map_congr_left fun shown isShown => ?_
    obtain ⟨isEmitted, documented⟩ := List.mem_filter.mp isShown
    unfold recordOf
    rw [path_of_emitted isEmitted, if_pos documented]
    rfl
  rw [sameRecords]
  unfold records Graph.searchIndex
  rw [linked.indexed_eq, Graph.filter_isEntity_records]
  exact (linked.documented_perm.map _).symm

/-- The owner of a method record has an emitted node and is documented. -/
theorem exists_emitted_of_method {owner name : String} {summary anchorUrl : Value}
    (isRecord : .method owner name summary anchorUrl ∈ collection.records) :
    ∃ shown ∈ collection.emitted, collection.graph.fullName shown.1 = owner ∧
      collection.isShownDocumented shown = true := by
  obtain ⟨id, isClass, isBelow⟩ := linked.mem_records_iff.mp isRecord
  have documented := Graph.isDocumented_of_mem_recordsOf isBelow
  have isShown : id ∈ Branch.entities collection.forest :=
    linked.mem_forest.mpr ⟨isClass, Graph.hasDocumentation_of_isDocumented documented⟩
  rw [← emitted_entities] at isShown
  obtain ⟨shown, isEmitted, rfl⟩ := List.mem_map.mp isShown
  exact ⟨shown, isEmitted, Graph.owner_of_mem_recordsOf isBelow, documented⟩

/-- No other documented entity has the name of an emitted one. -/
theorem filter_name_of_emitted {shown : EntityId × Node} (isEmitted : shown ∈ collection.emitted)
    (documented : collection.isShownDocumented shown = true) :
    (collection.emitted.filter collection.isShownDocumented).filter
      (fun other => collection.graph.fullName other.1 == collection.graph.fullName shown.1) =
        [shown] := by
  have distinct := linked.nodup_emitted_names
  have nodup : collection.emitted.Nodup := distinct.of_map
  refine List.perm_singleton.mp ((List.perm_ext_iff_of_nodup ((nodup.filter _).filter _)
    (List.nodup_singleton shown)).mpr fun other => ?_)
  rw [List.mem_filter, List.mem_filter, List.mem_singleton, beq_iff_eq]
  constructor
  · rintro ⟨⟨isOther, -⟩, sameName⟩
    exact List.inj_on_of_nodup_map distinct isOther isEmitted sameName
  · rintro rfl
    exact ⟨⟨isEmitted, documented⟩, rfl⟩

/-- An emitted node with a path has one record of its entity, with the same path. -/
theorem filter_describes_of_emitted {shown : EntityId × Node}
    (isEmitted : shown ∈ collection.emitted) (hasPath : shown.2.path ≠ .text "") :
    collection.records.filter (SearchRecord.describes (collection.graph.fullName shown.1)) =
      [collection.recordOf shown] := by
  have documented : collection.isShownDocumented shown = true := by
    by_contra undocumented
    rw [path_of_emitted isEmitted, if_neg undocumented] at hasPath
    exact hasPath rfl
  have amongEntities :
      collection.records.filter (SearchRecord.describes (collection.graph.fullName shown.1)) =
        (collection.records.filter SearchRecord.isEntity).filter
          (SearchRecord.describes (collection.graph.fullName shown.1)) := by
    rw [List.filter_filter]
    refine List.filter_congr fun record _ => ?_
    cases record <;> simp [SearchRecord.describes, SearchRecord.isEntity]
  have perm := linked.entityRecords_perm.filter
    (SearchRecord.describes (collection.graph.fullName shown.1))
  rw [List.filter_map] at perm
  have oneNode := linked.filter_name_of_emitted isEmitted documented
  rw [amongEntities]
  refine List.perm_singleton.mp (perm.trans ?_)
  rw [← List.map_singleton, ← oneNode]
  exact List.Perm.refl _

end IsLinked

end Collection

namespace Manifest

/-- The search index and the class tree of a loaded manifest agree. The tree has one node
for each emitted entity. The records of entities are those of the documented among them,
each once and with the path of its node. Every method record belongs to one of these, and
a node that shows a path has one record of its entity, which has that path too. -/
theorem searchIndex_agrees {manifest : Value} (typed : isWellTyped manifest = true)
    {collection : Collection} (loaded : load manifest = .ok collection) :
    (∃ nodes, collection.graph.classTree collection.classes = .ok nodes ∧
      Node.preorder nodes = collection.emitted.map Prod.snd) ∧
    (collection.emitted.map fun shown => collection.graph.fullName shown.1).Nodup ∧
    (collection.records.filter SearchRecord.isEntity).Perm
      ((collection.emitted.filter collection.isShownDocumented).map collection.recordOf) ∧
    (∀ owner name summary anchorUrl,
      .method owner name summary anchorUrl ∈ collection.records →
        ∃ shown ∈ collection.emitted, collection.graph.fullName shown.1 = owner ∧
          collection.isShownDocumented shown = true) ∧
    ∀ shown ∈ collection.emitted, shown.2.path ≠ .text "" →
      collection.records.filter (SearchRecord.describes (collection.graph.fullName shown.1)) =
        [collection.recordOf shown] := by
  have linked := isLinked_of_load typed loaded
  have made := Graph.classTree_of_orderly linked.orderly fun _ => linked.class_lt
  refine ⟨⟨_, made, ?_⟩, linked.nodup_emitted_names, linked.entityRecords_perm,
    fun _ _ _ _ => linked.exists_emitted_of_method,
    fun _ => linked.filter_describes_of_emitted⟩
  rw [Graph.preorder_toNodes, Collection.emitted, List.map_map]
  rfl

/-- In the tangle `A::C` is found by its method, and has a node below `A`. -/
theorem tangled_searchIndex_agrees :
    isWellTyped tangled = true ∧ ∃ collection, load tangled = .ok collection ∧
      (∃ nodes, collection.graph.classTree collection.classes = .ok nodes ∧
        Node.preorder nodes = collection.emitted.map Prod.snd) ∧
      .method "A::C" "call" (.text "") (.text "") ∈ collection.records ∧
      ∃ shown ∈ collection.emitted, collection.graph.fullName shown.1 = "A::C" ∧
        collection.isShownDocumented shown = true := by
  obtain ⟨collection, loaded, isClass, isBelow⟩ : ∃ collection, load tangled = .ok collection ∧
      2 ∈ collection.classes ∧
      .method "A::C" "call" (.text "") (.text "") ∈ collection.graph.recordsOf 2 := by
    exact ⟨_, rfl, by decide, List.mem_cons_of_mem _ List.mem_cons_self⟩
  have typed : isWellTyped tangled = true := by decide
  have isRecord := (isLinked_of_load typed loaded).mem_records_iff.mpr ⟨2, isClass, isBelow⟩
  obtain ⟨tree, -, -, owners, -⟩ := searchIndex_agrees typed loaded
  exact ⟨typed, collection, loaded, tree, isRecord, owners _ _ _ _ isRecord⟩

end Manifest

end DocAtlas
