import DocAtlas.Proofs.Entity.Links
import DocAtlas.Proofs.Manifest.Ancestry
import DocAtlas.Proofs.Manifest.Drafting

/-!
# Linking

Linking a checked draft amounts to two sequences of links, those of the parents and
behind them those of the `children` lists. This module says which names have to be
found for that, and what the links of the linked collection are in terms of the records.
-/

namespace DocAtlas.Manifest

/-- The full name that a class record gives for its parent. -/
def parentName? (fields : Fields) : Option String :=
  match Value.field "parent" fields with
  | .text name => if name = "" then none else some name
  | _ => none

/-- The full names that a class record lists as its children. -/
def childNames (fields : Fields) : List String :=
  (Value.field "children" fields).contents Value.text?

/-- The link of a record to the parent that it names. -/
def parentLink? (names : Collection) (placed : Placed) : Option Link :=
  ((parentName? placed.1).bind names.find?).map fun parent => (parent, placed.2)

/-- The parent links of records. -/
def parentLinks (names : Collection) (records : List Placed) : List Link :=
  records.filterMap (parentLink? names)

/-- The links of one container to what names find. -/
def memberLinks (names : Collection) (owner : EntityId) (members : List String) : List Link :=
  (members.filterMap names.find?).map fun member => (owner, member)

/-- The links of each record to the children that it lists. -/
def childLinks (names : Collection) (records : List Placed) : List Link :=
  records.flatMap fun placed => memberLinks names placed.2 (childNames placed.1)

/-- The graph of a draft behind its parent links. -/
def Draft.parented (draft : Draft) : Graph :=
  draft.collection.graph.addChildren (parentLinks draft.collection draft.records)

/-- The collection of a draft behind all its links. -/
def Draft.linked (draft : Draft) : Collection :=
  { draft.collection with
    graph := draft.parented.appendAll (childLinks draft.collection draft.records) }

/-- Every name that a record of a draft refers to is found. -/
def Draft.Resolves (draft : Draft) : Prop :=
  ∀ placed ∈ draft.records, ∀ name,
    parentName? placed.1 = some name ∨ name ∈ childNames placed.1 →
      ∃ id, draft.collection.find? name = some id

/-- Every parent that a record of a draft names is found. -/
def Draft.ResolvesParents (draft : Draft) : Prop :=
  ∀ placed ∈ draft.records, ∀ name, parentName? placed.1 = some name →
    ∃ id, draft.collection.find? name = some id

/-- Where all references resolve, those to parents do. -/
theorem Draft.Resolves.parents {draft : Draft} (resolves : draft.Resolves) :
    draft.ResolvesParents :=
  fun placed isPlaced name isName => resolves placed isPlaced name (.inl isName)

/-- A reference resolves to what has the name. -/
theorem resolve_text_eq_ok_iff {names : Collection} {owner id : EntityId} {name : String} :
    resolve names owner (.text name) = .ok id ↔ names.find? name = some id := by
  unfold resolve
  dsimp only
  cases names.find? name <;> simp [refuse]

/-- A typed record gives no parent, or a text that is a name. -/
theorem parent_cases {fields : Fields} (typed : isClassTyped fields = true) :
    ((Value.field "parent" fields).isGiven = false ∧ parentName? fields = none) ∨
      ∃ name, Value.field "parent" fields = .text name ∧
        (Value.field "parent" fields).isGiven = true ∧ parentName? fields = some name :=
  givenText?_cases (isClassTyped_text typed (by simp))

/-- Parents are linked when each name that is given finds an entity. -/
theorem linkParents_eq_ok_iff {names : Collection} {records : List Placed}
    (typed : ∀ placed ∈ records, isClassTyped placed.1 = true) {graph result : Graph} :
    linkParents names records graph = .ok result ↔
      (∀ placed ∈ records, ∀ name, parentName? placed.1 = some name →
        ∃ id, names.find? name = some id) ∧
        result = graph.addChildren (parentLinks names records) := by
  induction records generalizing graph with
  | nil =>
      unfold linkParents
      simp [parentLinks, Graph.addChildren, pure, Except.pure, eq_comm]
  | cons placed rest inductionHypothesis =>
      obtain ⟨fields, id⟩ := placed
      rw [List.forall_mem_cons] at typed
      unfold linkParents
      rw [List.forall_mem_cons]
      unfold parentLinks
      rcases parent_cases typed.1 with ⟨notGiven, noName⟩ | ⟨name, isText, given, isName⟩
      · have noLink : parentLink? names (fields, id) = none := by
          unfold parentLink?
          rw [noName]
          rfl
        rw [List.filterMap_cons_none noLink]
        simp only [notGiven, Bool.false_eq_true, if_false, noName]
        rw [inductionHypothesis typed.2]
        simp [parentLinks]
      · have link : parentLink? names (fields, id) =
            (names.find? name).map fun parent => (parent, id) := by
          unfold parentLink?
          rw [isName]
          rfl
        simp only [given, if_true, isName, Checked.bind_eq_ok, Option.some.injEq,
          forall_eq']
        rw [isText]
        simp only [resolve_text_eq_ok_iff, inductionHypothesis typed.2]
        constructor
        · rintro ⟨parent, found, others, rfl⟩
          rw [found] at link
          rw [List.filterMap_cons_some link]
          exact ⟨⟨⟨parent, found⟩, others⟩, rfl⟩
        · rintro ⟨⟨⟨parent, found⟩, others⟩, rfl⟩
          rw [found] at link
          rw [List.filterMap_cons_some link]
          exact ⟨parent, found, others, rfl⟩

/-- Members are added to a container when each name finds an entity. -/
theorem addAliases_eq_ok_iff {names : Collection} {owner : EntityId} {members : List String}
    {graph result : Graph} :
    addAliases names owner (members.map Value.text) graph = .ok result ↔
      (∀ name ∈ members, ∃ id, names.find? name = some id) ∧
        result = graph.appendAll (memberLinks names owner members) := by
  induction members generalizing graph with
  | nil =>
      rw [List.map_nil]
      unfold addAliases
      simp [memberLinks, Graph.appendAll, pure, Except.pure, eq_comm]
  | cons name rest inductionHypothesis =>
      rw [List.map_cons, List.forall_mem_cons]
      unfold addAliases memberLinks
      simp only [Checked.bind_eq_ok, resolve_text_eq_ok_iff, inductionHypothesis]
      constructor
      · rintro ⟨member, found, others, rfl⟩
        rw [List.filterMap_cons_some found]
        exact ⟨⟨⟨member, found⟩, others⟩, rfl⟩
      · rintro ⟨⟨⟨member, found⟩, others⟩, rfl⟩
        rw [List.filterMap_cons_some found]
        exact ⟨member, found, others, rfl⟩

/-- The children of a typed record are listed as they stand. -/
theorem listedOf_children {fields : Fields} (typed : isClassTyped fields = true) :
    listedOf (Value.field "children" fields) = .ok ((childNames fields).map Value.text) := by
  unfold isClassTyped at typed
  simp only [Bool.and_eq_true] at typed
  exact listedOf_texts typed.1.2

/-- The lists of all records are linked when each name in them finds an entity. -/
theorem linkAliases_eq_ok_iff {names : Collection} {records : List Placed}
    (typed : ∀ placed ∈ records, isClassTyped placed.1 = true) {graph result : Graph} :
    linkAliases names records graph = .ok result ↔
      (∀ placed ∈ records, ∀ name ∈ childNames placed.1, ∃ id, names.find? name = some id) ∧
        result = graph.appendAll (childLinks names records) := by
  induction records generalizing graph with
  | nil =>
      unfold linkAliases
      simp [childLinks, Graph.appendAll, pure, Except.pure, eq_comm]
  | cons placed rest inductionHypothesis =>
      obtain ⟨fields, id⟩ := placed
      rw [List.forall_mem_cons] at typed
      unfold linkAliases
      simp only [listedOf_children typed.1, Checked.ok_bind, Checked.bind_eq_ok,
        addAliases_eq_ok_iff, inductionHypothesis typed.2]
      rw [List.forall_mem_cons]
      unfold childLinks Graph.appendAll
      rw [List.flatMap_cons, List.foldl_append]
      constructor
      · rintro ⟨_, ⟨here, rfl⟩, others, rfl⟩
        exact ⟨⟨here, others⟩, rfl⟩
      · rintro ⟨⟨here, others⟩, rfl⟩
        exact ⟨_, ⟨here, rfl⟩, others, rfl⟩

namespace Draft

variable {draft : Draft}

@[simp] theorem size_parented : draft.parented.size = draft.collection.graph.size :=
  Graph.size_addChildren _ _

@[simp] theorem size_linked : draft.linked.graph.size = draft.collection.graph.size := by
  simp [linked]

/-- Linking parents changes nothing of an entity but its missing parent. -/
theorem entity_parented {id : EntityId} (isPlace : id < draft.collection.graph.size) :
    draft.parented.entity id =
      { draft.collection.graph.entity id with
        parent := (draft.collection.graph.entity id).parent.or
          (Link.container? (parentLinks draft.collection draft.records) id)
        children := (Link.members (parentLinks draft.collection draft.records) id).foldl
          Link.withMember (draft.collection.graph.entity id).children } :=
  Graph.entity_addChildren _ _ _ isPlace

/-- Linking children adds to an entity the members that its record lists. -/
theorem entity_linked {id : EntityId} (isPlace : id < draft.collection.graph.size) :
    draft.linked.graph.entity id =
      { draft.parented.entity id with
        children := (Link.members (childLinks draft.collection draft.records) id).foldl
          Link.withMember (draft.parented.entity id).children } :=
  Graph.entity_appendAll _ _ _ (by rw [size_parented]; exact isPlace)

/-- The lists of the records change nobody's parent. -/
theorem parent_linked (id : EntityId) :
    (draft.linked.graph.entity id).parent = (draft.parented.entity id).parent := by
  by_cases isPlace : id < draft.collection.graph.size
  · rw [entity_linked isPlace]
  · rw [Graph.entity_outside (by simpa using isPlace),
      Graph.entity_outside (by simpa using isPlace)]

/-- Linking children changes no parents. -/
theorem hasParent_linked {child parent : EntityId} :
    draft.linked.graph.HasParent child parent ↔ draft.parented.HasParent child parent := by
  unfold Graph.HasParent
  rw [parent_linked]

/-- Links change no names and no kinds. -/
theorem fullName_parented (id : EntityId) :
    draft.parented.fullName id = draft.collection.graph.fullName id := by
  unfold Graph.fullName
  by_cases isPlace : id < draft.collection.graph.size
  · rw [entity_parented isPlace]
  · rw [Graph.entity_outside (Nat.le_of_not_lt isPlace),
      Graph.entity_outside (by rw [size_parented]; exact Nat.le_of_not_lt isPlace)]

/-- Linking changes no full name. -/
theorem fullName_linked (id : EntityId) :
    draft.linked.graph.fullName id = draft.collection.graph.fullName id := by
  unfold Graph.fullName
  by_cases isPlace : id < draft.collection.graph.size
  · rw [entity_linked isPlace, entity_parented isPlace]
  · rw [Graph.entity_outside (Nat.le_of_not_lt isPlace),
      Graph.entity_outside (by rw [size_linked]; exact Nat.le_of_not_lt isPlace)]

/-- Linking changes no full names. -/
theorem fullNames_linked : draft.linked.graph.fullName = draft.collection.graph.fullName :=
  funext fullName_linked

/-- Linking makes no entity a namespace and takes that from none. -/
theorem isNamespace_linked (id : EntityId) :
    draft.linked.graph.isNamespace id = draft.collection.graph.isNamespace id := by
  unfold Graph.isNamespace
  by_cases isPlace : id < draft.collection.graph.size
  · rw [entity_linked isPlace, entity_parented isPlace]
  · rw [Graph.entity_outside (Nat.le_of_not_lt isPlace),
      Graph.entity_outside (by rw [size_linked]; exact Nat.le_of_not_lt isPlace)]

/-- A link to a parent comes from a record whose parent name is found. -/
theorem mem_parentLinks {container member : EntityId} :
    (container, member) ∈ parentLinks draft.collection draft.records ↔
      ∃ fields name, (fields, member) ∈ draft.records ∧ parentName? fields = some name ∧
        draft.collection.find? name = some container := by
  unfold parentLinks parentLink?
  simp only [List.mem_filterMap, Option.map_eq_some_iff, Option.bind_eq_some_iff]
  constructor
  · rintro ⟨⟨fields, _⟩, isPlaced, _, ⟨name, isName, found⟩, same⟩
    cases same
    exact ⟨fields, name, isPlaced, isName, found⟩
  · rintro ⟨fields, name, isPlaced, isName, found⟩
    exact ⟨(fields, member), isPlaced, container, ⟨name, isName, found⟩, rfl⟩

/-- A link to a child comes from a record that lists a name that is found. -/
theorem mem_childLinks {container member : EntityId} :
    (container, member) ∈ childLinks draft.collection draft.records ↔
      ∃ fields, (fields, container) ∈ draft.records ∧
        ∃ name ∈ childNames fields, draft.collection.find? name = some member := by
  unfold childLinks memberLinks
  simp only [List.mem_flatMap, List.mem_map, List.mem_filterMap]
  constructor
  · rintro ⟨⟨fields, _⟩, isPlaced, _, ⟨name, isName, found⟩, same⟩
    cases same
    exact ⟨fields, isPlaced, name, isName, found⟩
  · rintro ⟨fields, isPlaced, name, isName, found⟩
    exact ⟨(fields, container), isPlaced, member, ⟨name, isName, found⟩, rfl⟩

namespace IsChecked

variable (checked : draft.IsChecked)
include checked

/-- The classes and files are all places of the graph. -/
theorem mem_listed {id : EntityId} :
    id ∈ draft.collection.classes ++ draft.collection.files ↔ id < draft.collection.graph.size := by
  rw [checked.listed, List.mem_range]

/-- A name finds the place that has it. -/
theorem find?_eq_some_iff {name : String} {id : EntityId} :
    draft.collection.find? name = some id ↔
      id < draft.collection.graph.size ∧ draft.collection.graph.fullName id = name := by
  rw [Collection.find?_eq_some_iff checked.distinct, checked.mem_listed]

/-- Places of a draft with one full name are one place. -/
theorem eq_of_fullName_eq {left right : EntityId} (leftPlace : left < draft.collection.graph.size)
    (rightPlace : right < draft.collection.graph.size)
    (same : draft.collection.graph.fullName left = draft.collection.graph.fullName right) :
    left = right :=
  List.inj_on_of_nodup_map checked.distinct (checked.mem_listed.mpr leftPlace)
    (checked.mem_listed.mpr rightPlace) same

/-- No class of a draft stands twice among its classes. -/
theorem nodup_classes : draft.collection.classes.Nodup := by
  have nodup : (draft.collection.classes ++ draft.collection.files).Nodup := by
    rw [checked.listed]
    exact List.nodup_range
  exact (List.nodup_append'.mp nodup).1

/-- No file of a draft stands twice among its files. -/
theorem nodup_files : draft.collection.files.Nodup := by
  have nodup : (draft.collection.classes ++ draft.collection.files).Nodup := by
    rw [checked.listed]
    exact List.nodup_range
  exact (List.nodup_append'.mp nodup).2.1

/-- A class is a place of the graph whose parents are linked. -/
theorem class_lt_parented {id : EntityId} (isClass : id ∈ draft.collection.classes) :
    id < draft.parented.size := by
  rw [size_parented]
  exact ((checked.mem_classes id).mp isClass).1

/-- Names tell entities apart behind the parent links too. -/
theorem eq_of_fullName_parented {left right : EntityId} (leftPlace : left < draft.parented.size)
    (rightPlace : right < draft.parented.size)
    (same : draft.parented.fullName left = draft.parented.fullName right) : left = right := by
  rw [size_parented] at leftPlace rightPlace
  rw [fullName_parented, fullName_parented] at same
  exact checked.eq_of_fullName_eq leftPlace rightPlace same

/-- No two records have the same place. -/
theorem nodup_places : (draft.records.map Prod.snd).Nodup := by
  rw [checked.placed]
  exact checked.nodup_classes

/-- A record stands at the place of a class. -/
theorem mem_classes_of_placed {placed : Placed} (isPlaced : placed ∈ draft.records) :
    placed.2 ∈ draft.collection.classes := by
  rw [← checked.placed]
  exact List.mem_map_of_mem isPlaced

/-- A record of a draft is placed in its graph. -/
theorem placed_lt {placed : Placed} (isPlaced : placed ∈ draft.records) :
    placed.2 < draft.collection.graph.size :=
  ((checked.mem_classes placed.2).mp (checked.mem_classes_of_placed isPlaced)).1

/-- Each record gives one parent at most. -/
theorem nodup_parentLinks :
    ((parentLinks draft.collection draft.records).map Prod.snd).Nodup := by
  have subsequence : ((parentLinks draft.collection draft.records).map Prod.snd).Sublist
      (draft.records.map Prod.snd) := by
    unfold parentLinks
    induction draft.records with
    | nil => exact .slnil
    | cons placed rest inductionHypothesis =>
        cases link : parentLink? draft.collection placed with
        | none =>
            rw [List.filterMap_cons_none link]
            exact inductionHypothesis.cons _
        | some found =>
            have isPlace : found.2 = placed.2 := by
              obtain ⟨_, _, rfl⟩ := Option.map_eq_some_iff.mp link
              rfl
            rw [List.filterMap_cons_some link, List.map_cons, List.map_cons, isPlace]
            exact inductionHypothesis.cons_cons _
  exact checked.nodup_places.sublist subsequence

/-- The parent of an entity is the one that its record names. -/
theorem hasParent_iff {child parent : EntityId} :
    draft.linked.graph.HasParent child parent ↔
      ∃ fields name, (fields, child) ∈ draft.records ∧ parentName? fields = some name ∧
        draft.collection.find? name = some parent := by
  rw [← mem_parentLinks, hasParent_linked,
    ← Link.container?_eq_some_iff checked.nodup_parentLinks]
  unfold Graph.HasParent
  by_cases isPlace : child < draft.collection.graph.size
  · rw [entity_parented isPlace, checked.parent child, Option.none_or]
  · rw [Graph.entity_outside (by simpa [parented] using isPlace),
      Link.container?_eq_some_iff checked.nodup_parentLinks, mem_parentLinks]
    constructor
    · exact fun absurdity => by cases absurdity
    · rintro ⟨fields, name, isPlaced, -⟩
      exact absurd (checked.placed_lt isPlaced) isPlace

/-- The children of an entity are those that name it as their parent and those that
its own record lists. -/
theorem mem_children_iff {child parent : EntityId} :
    child ∈ (draft.linked.graph.entity parent).children ↔
      draft.linked.graph.HasParent child parent ∨
        ∃ fields, (fields, parent) ∈ draft.records ∧
          ∃ name ∈ childNames fields, draft.collection.find? name = some child := by
  rw [checked.hasParent_iff, ← mem_parentLinks, ← mem_childLinks]
  by_cases isPlace : parent < draft.collection.graph.size
  · rw [entity_linked isPlace, Link.mem_foldl_withMember, entity_parented isPlace,
      Link.mem_foldl_withMember, checked.children, Link.mem_members, Link.mem_members]
    simp only [List.not_mem_nil, false_or]
  · rw [Graph.entity_outside (by simpa using isPlace), mem_parentLinks, mem_childLinks]
    constructor
    · exact fun absurdity => absurd absurdity List.not_mem_nil
    · rintro (⟨_, _, -, -, found⟩ | ⟨_, isPlaced, -⟩)
      · exact absurd (checked.find?_eq_some_iff.mp found).1 isPlace
      · exact absurd (checked.placed_lt isPlaced) isPlace

/-- No child stands twice in its container once everything is linked. -/
theorem nodup_children (id : EntityId) : (draft.linked.graph.entity id).children.Nodup := by
  by_cases isPlace : id < draft.collection.graph.size
  · rw [entity_linked isPlace]
    apply Link.nodup_foldl_withMember
    rw [entity_parented isPlace]
    apply Link.nodup_foldl_withMember
    rw [checked.children]
    exact List.nodup_nil
  · rw [Graph.entity_outside (by simpa using isPlace)]
    exact List.nodup_nil

/-- Only classes have parents, so a cycle of parent links goes through classes. -/
theorem acyclic_iff :
    (∀ id, ¬ Relation.TransGen draft.linked.graph.HasParent id id) ↔
      ∀ id ∈ draft.collection.classes, ¬ Relation.TransGen draft.parented.HasParent id id := by
  have same : draft.linked.graph.HasParent = draft.parented.HasParent := by
    ext child parent
    exact hasParent_linked
  rw [same]
  refine ⟨fun acyclic id _ => acyclic id, fun acyclic id cycle => ?_⟩
  obtain ⟨parent, hasParent, -⟩ := Relation.TransGen.head'_iff.mp cycle
  obtain ⟨fields, -, isPlaced, -⟩ := checked.hasParent_iff.mp (hasParent_linked.mpr hasParent)
  exact acyclic id (checked.mem_classes_of_placed isPlaced) cycle

/-- A checked draft is linked when every name finds an entity and no way up by parents
leads back to its start. -/
theorem link_eq_ok_iff {collection : Collection} :
    draft.link = .ok collection ↔
      draft.Resolves ∧ (∀ id, ¬ Relation.TransGen draft.linked.graph.HasParent id id) ∧
        collection = draft.linked := by
  rw [checked.acyclic_iff, ← checkAncestry_eq_ok_iff
    (fun _ _ => checked.eq_of_fullName_parented) (fun _ => checked.class_lt_parented)]
  unfold Draft.link
  simp only [Checked.bind_eq_ok, linkParents_eq_ok_iff checked.typed,
    linkAliases_eq_ok_iff checked.typed]
  unfold Draft.Resolves
  constructor
  · rintro ⟨_, ⟨parents, rfl⟩, _, acyclic, _, ⟨members, rfl⟩, made⟩
    refine ⟨fun placed isPlaced name isUsed => ?_, acyclic, (Except.ok.inj made).symm⟩
    exact isUsed.elim (parents placed isPlaced name) (members placed isPlaced name)
  · rintro ⟨resolves, acyclic, rfl⟩
    exact ⟨_, ⟨fun placed isPlaced name isName => resolves placed isPlaced name (.inl isName), rfl⟩,
      (), acyclic, _,
      ⟨fun placed isPlaced name isName => resolves placed isPlaced name (.inr isName), rfl⟩, rfl⟩

end IsChecked

end Draft

end DocAtlas.Manifest
