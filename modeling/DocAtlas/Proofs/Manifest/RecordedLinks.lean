import DocAtlas.Proofs.Manifest.Acceptance

/-!
# Links as recorded

The links of a loaded manifest are made in two passes over its records, in which an entity may
be met as a parent, a child or a listed member at any time. This module gives the result by
name, from the records alone: parents are those that records name, and children are those that
name a parent, in record order, and behind them what the container itself lists.
-/

namespace DocAtlas.Manifest

/-- The full names of the classes that name an entity as their parent, in record order. -/
def memberNames (manifest : Value) (container : String) : List String :=
  ((recordsUnder "classes" manifest).filter fun fields =>
    givenText? "parent" fields == some container).filterMap (givenText? "full_name")

/-- The links of a class are those of its record: the parent that it names, if any, and as its
children the classes that name it and behind them the entries of its own list that are not
among these, each at its first place. -/
structure IsLinkedClass (manifest : Value) (graph : Graph) (fields : Fields) (id : EntityId) :
    Prop where
  fullName : givenText? "full_name" fields = some (graph.fullName id)
  parent : (graph.entity id).parent.map graph.fullName = givenText? "parent" fields
  children : (graph.entity id).children.map graph.fullName =
    memberNames manifest (graph.fullName id) ++
      ((childNames fields).removeAll (memberNames manifest (graph.fullName id))).eraseDups

/-- A file has no parent, and as its children the classes that name it. -/
structure IsLinkedFile (manifest : Value) (graph : Graph) (fields : Fields) (id : EntityId) :
    Prop where
  fullName : givenText? "full_name" fields = some (graph.fullName id)
  parent : (graph.entity id).parent = none
  children : (graph.entity id).children.map graph.fullName =
    memberNames manifest (graph.fullName id)

/-- A collection is linked as the records of a manifest say, by names that tell its entities
apart. No link leads out of it. -/
structure IsLinkedAsRecorded (manifest : Value) (collection : Collection) : Prop where
  classes : List.Forall₂ (IsLinkedClass manifest collection.graph)
    (recordsUnder "classes" manifest) collection.classes
  files : List.Forall₂ (IsLinkedFile manifest collection.graph)
    (recordsUnder "files" manifest) collection.files
  distinct : ((collection.classes ++ collection.files).map collection.graph.fullName).Nodup
  nodup_children : ∀ id, (collection.graph.entity id).children.Nodup
  children_listed : ∀ container, ∀ member ∈ (collection.graph.entity container).children,
    member ∈ collection.classes ++ collection.files
  parent_listed : ∀ child parent, collection.graph.HasParent child parent →
    parent ∈ collection.classes ++ collection.files
  parent_contains : ∀ child parent, collection.graph.HasParent child parent →
    child ∈ (collection.graph.entity parent).children

/-- Links to other containers give a container nothing. -/
theorem members_childLinks_of_not_mem {names : Collection} {records : List Placed}
    {container : EntityId} (notPlaced : container ∉ records.map Prod.snd) :
    Link.members (childLinks names records) container = [] := by
  rw [List.eq_nil_iff_forall_not_mem]
  intro member isMember
  obtain ⟨placed, isPlaced, isLink⟩ := List.mem_flatMap.mp (Link.mem_members.mp isMember)
  obtain ⟨_, -, same⟩ := List.mem_map.mp isLink
  cases same
  exact notPlaced (List.mem_map_of_mem isPlaced)

/-- The lists of the records give a container what its own record lists. -/
theorem members_childLinks {names : Collection} {records : List Placed}
    (nodup : (records.map Prod.snd).Nodup) {fields : Fields} {container : EntityId}
    (isPlaced : (fields, container) ∈ records) :
    Link.members (childLinks names records) container =
      (childNames fields).filterMap names.find? := by
  obtain ⟨before, after, rfl⟩ := List.append_of_mem isPlaced
  rw [List.map_append, List.map_cons, List.nodup_middle, List.nodup_cons, List.mem_append,
    not_or] at nodup
  obtain ⟨⟨notBefore, notAfter⟩, -⟩ := nodup
  have own : Link.members (memberLinks names container (childNames fields)) container =
      (childNames fields).filterMap names.find? := by
    simp [Link.members, memberLinks, List.filter_map, Function.comp_def]
  calc Link.members (childLinks names (before ++ (fields, container) :: after)) container
      = Link.members (childLinks names before) container ++
          (Link.members (memberLinks names container (childNames fields)) container ++
            Link.members (childLinks names after) container) := by
        simp [Link.members, childLinks]
    _ = (childNames fields).filterMap names.find? := by
        rw [members_childLinks_of_not_mem notBefore, members_childLinks_of_not_mem notAfter, own,
          List.nil_append, List.append_nil]

namespace Draft.IsChecked

variable {draft : Draft} (checked : draft.IsChecked)
include checked

/-- A record links to a container exactly when it names the container. -/
theorem parentLink?_eq_some_iff {container : EntityId}
    (isPlace : container < draft.collection.graph.size) {placed : Placed} {member : EntityId} :
    parentLink? draft.collection placed = some (container, member) ↔
      parentName? placed.1 = some (draft.collection.graph.fullName container) ∧
        placed.2 = member := by
  unfold parentLink?
  rw [Option.map_eq_some_iff]
  simp only [Option.bind_eq_some_iff, checked.find?_eq_some_iff, Prod.mk.injEq]
  constructor
  · rintro ⟨_, ⟨_, isName, -, rfl⟩, rfl, isMember⟩
    exact ⟨isName, isMember⟩
  · rintro ⟨isName, isMember⟩
    exact ⟨container, ⟨_, isName, isPlace, rfl⟩, rfl, isMember⟩

/-- The parent links give a container the classes whose records name it, in record order. -/
theorem members_parentLinks {container : EntityId}
    (isPlace : container < draft.collection.graph.size) :
    Link.members (parentLinks draft.collection draft.records) container =
      (draft.records.filter fun placed =>
        parentName? placed.1 == some (draft.collection.graph.fullName container)).map Prod.snd := by
  unfold Link.members parentLinks
  rw [List.filter_filterMap, List.map_filterMap, ← List.filterMap_eq_map, List.filterMap_filter]
  refine List.filterMap_congr fun placed _ => Option.ext fun member => ?_
  calc ((parentLink? draft.collection placed).filter (·.1 == container)).map (·.2) = some member
      ↔ parentLink? draft.collection placed = some (container, member) := by
        simp [Option.map_eq_some_iff, Option.filter_eq_some_iff]
    _ ↔ parentName? placed.1 = some (draft.collection.graph.fullName container) ∧
          placed.2 = member := checked.parentLink?_eq_some_iff isPlace
    _ ↔ _ := by simp

/-- Behind the parent links, the children of a container are the classes whose records name
it. -/
theorem children_parented {container : EntityId}
    (isPlace : container < draft.collection.graph.size) :
    (draft.parented.entity container).children =
      (draft.records.filter fun placed =>
        parentName? placed.1 == some (draft.collection.graph.fullName container)).map Prod.snd := by
  have members := checked.members_parentLinks isPlace
  have nodup : (Link.members (parentLinks draft.collection draft.records) container).Nodup := by
    rw [members]
    exact checked.nodup_places.sublist (List.filter_sublist.map _)
  rw [Draft.entity_parented isPlace, checked.children, Link.foldl_withMember_of_nodup nodup,
    members, List.nil_append]

/-- Names that are all found find what has them. -/
theorem map_fullName_filterMap_find? {names : List String}
    (found : ∀ name ∈ names, ∃ id, draft.collection.find? name = some id) :
    (names.filterMap draft.collection.find?).map draft.collection.graph.fullName = names := by
  induction names with
  | nil => rfl
  | cons name rest inductionHypothesis =>
      rw [List.forall_mem_cons] at found
      obtain ⟨⟨id, isFound⟩, restFound⟩ := found
      rw [List.filterMap_cons_some isFound, List.map_cons, inductionHypothesis restFound,
        (checked.find?_eq_some_iff.mp isFound).2]

/-- Behind all links, the children of the class of a record are those behind the parent links,
and the names behind them are the other ones that the record lists. -/
theorem map_fullName_children (resolves : draft.Resolves) {fields : Fields} {id : EntityId}
    (isPlaced : (fields, id) ∈ draft.records) :
    (draft.linked.graph.entity id).children.map draft.collection.graph.fullName =
      (draft.parented.entity id).children.map draft.collection.graph.fullName ++
        ((childNames fields).removeAll ((draft.parented.entity id).children.map
          draft.collection.graph.fullName)).eraseDups := by
  have isPlace := checked.placed_lt isPlaced
  have listed := checked.map_fullName_filterMap_find? fun name isListed =>
    resolves _ isPlaced name (.inr isListed)
  have arePlaces : ∀ member ∈ (draft.parented.entity id).children ++
      (childNames fields).filterMap draft.collection.find?,
      member < draft.collection.graph.size := by
    intro member isMember
    rcases List.mem_append.mp isMember with isNamed | isListed
    · rw [checked.children_parented isPlace] at isNamed
      obtain ⟨placed, isKept, rfl⟩ := List.mem_map.mp isNamed
      exact checked.placed_lt (List.mem_of_mem_filter isKept)
    · obtain ⟨name, -, found⟩ := List.mem_filterMap.mp isListed
      exact (checked.find?_eq_some_iff.mp found).1
  rw [Draft.entity_linked isPlace]
  dsimp only
  rw [members_childLinks checked.nodup_places isPlaced,
    Link.map_foldl_withMember fun left isLeft right isRight =>
      checked.eq_of_fullName_eq (arePlaces left isLeft) (arePlaces right isRight),
    listed]

/-- The lists of the records give nothing to what has no record of a class. -/
theorem children_of_not_placed {id : EntityId} (isPlace : id < draft.collection.graph.size)
    (notClass : id ∉ draft.collection.classes) :
    (draft.linked.graph.entity id).children = (draft.parented.entity id).children := by
  rw [← checked.placed] at notClass
  rw [Draft.entity_linked isPlace]
  dsimp only
  rw [members_childLinks_of_not_mem notClass]
  rfl

/-- The name of the parent of a class is what its record gives. -/
theorem map_fullName_parent (resolves : draft.ResolvesParents) {fields : Fields} {id : EntityId}
    (isPlaced : (fields, id) ∈ draft.records) :
    (draft.linked.graph.entity id).parent.map draft.collection.graph.fullName =
      parentName? fields := by
  apply Option.ext
  intro name
  rw [Option.map_eq_some_iff]
  constructor
  · rintro ⟨parent, isParent, rfl⟩
    obtain ⟨others, name, otherPlaced, isName, found⟩ := checked.hasParent_iff.mp isParent
    cases List.inj_on_of_nodup_map checked.nodup_places otherPlaced isPlaced rfl
    rw [isName, (checked.find?_eq_some_iff.mp found).2]
  · intro isName
    obtain ⟨parent, found⟩ := resolves _ isPlaced name isName
    exact ⟨parent, checked.hasParent_iff.mpr ⟨fields, name, isPlaced, isName, found⟩,
      (checked.find?_eq_some_iff.mp found).2⟩

/-- What has no record of a class has no parent. -/
theorem parent_of_not_placed {id : EntityId} (notClass : id ∉ draft.collection.classes) :
    (draft.linked.graph.entity id).parent = none := by
  rw [Option.eq_none_iff_forall_not_mem]
  intro parent isParent
  obtain ⟨fields, -, isPlaced, -⟩ := checked.hasParent_iff.mp isParent
  exact notClass (checked.mem_classes_of_placed isPlaced)

end Draft.IsChecked

section Reading

variable {manifest : Value} {classes files : List Entity}
  (reading : IsReading manifest classes files)

/-- The records of a draft are the class records of the manifest. -/
theorem IsReading.map_fst_records :
    reading.draft.records.map Prod.fst = recordsUnder "classes" manifest :=
  List.map_fst_zip (by simp [reading.classes.length_eq])

variable (typed : isWellTyped manifest = true) (checked : reading.draft.IsChecked)
include typed checked

/-- The classes that name an entity are its children behind the parent links. -/
theorem IsReading.memberNames_eq {container : EntityId}
    (isPlace : container < reading.draft.collection.graph.size) :
    memberNames manifest (reading.draft.collection.graph.fullName container) =
      (reading.draft.parented.entity container).children.map
        reading.draft.collection.graph.fullName := by
  rw [checked.children_parented isPlace]
  unfold memberNames
  rw [← reading.map_fst_records, List.filter_map, List.filterMap_map, List.map_map,
    ← List.filterMap_eq_map]
  refine List.filterMap_congr fun placed isNamed => ?_
  exact reading.fullName_of_placed typed (List.mem_of_mem_filter isNamed)

/-- Every class of a draft is linked as its record says. -/
theorem IsReading.isLinkedClass (resolves : reading.draft.Resolves) {fields : Fields}
    {id : EntityId} (isPlaced : (fields, id) ∈ reading.draft.records) :
    IsLinkedClass manifest reading.draft.linked.graph fields id := by
  constructor
  case fullName =>
    rw [Draft.fullNames_linked]
    exact reading.fullName_of_placed typed isPlaced
  case parent =>
    rw [Draft.fullNames_linked]
    exact checked.map_fullName_parent resolves.parents isPlaced
  case children =>
    rw [Draft.fullNames_linked,
      reading.memberNames_eq typed checked (checked.placed_lt isPlaced)]
    exact checked.map_fullName_children resolves isPlaced

/-- Every file of a draft contains the classes that name it. -/
theorem IsReading.isLinkedFile {fields : Fields} {id : EntityId}
    (isFile : id ∈ reading.draft.collection.files)
    (isFullName : givenText? "full_name" fields =
      some (reading.draft.collection.graph.fullName id)) :
    IsLinkedFile manifest reading.draft.linked.graph fields id := by
  obtain ⟨isPlace, isNoNamespace⟩ := (checked.mem_files id).mp isFile
  have notClass : id ∉ reading.draft.collection.classes := by
    rw [checked.mem_classes, isNoNamespace]
    simp
  constructor
  case fullName =>
    rw [Draft.fullNames_linked]
    exact isFullName
  case parent => exact checked.parent_of_not_placed notClass
  case children =>
    rw [Draft.fullNames_linked, reading.memberNames_eq typed checked isPlace,
      checked.children_of_not_placed isPlace notClass]

/-- The classes of a draft are linked as their records say, record by record. -/
theorem IsReading.classes_linkedAsRecorded (resolves : reading.draft.Resolves) :
    List.Forall₂ (IsLinkedClass manifest reading.draft.linked.graph)
      (recordsUnder "classes" manifest) reading.draft.collection.classes := by
  rw [← reading.map_fst_records, ← checked.placed, List.forall₂_map_left_iff,
    List.forall₂_map_right_iff, List.forall₂_same]
  exact fun placed isPlaced => reading.isLinkedClass typed checked resolves isPlaced

/-- The files of a draft are linked as the class records say, record by record. -/
theorem IsReading.files_linkedAsRecorded :
    List.Forall₂ (IsLinkedFile manifest reading.draft.linked.graph)
      (recordsUnder "files" manifest) reading.draft.collection.files := by
  have read := reading.files
  have placed := (@map_entity_draftWith classes files (recordsUnder "classes" manifest)).2
  rw [← placed, List.forall₂_map_right_iff] at read
  refine (Pairing.with_mem read).imp fun fields id both => ?_
  obtain ⟨isRecord, isFile, isRead⟩ := both
  exact reading.isLinkedFile typed checked isFile
    (names_of_fileOf (isFileTyped_of_mem typed fields isRecord) isRead).1

end Reading

/-- A well-typed manifest that is loaded is linked as its records say, whatever the order in which
parents, children and listed members are met. The `children` lists come behind the parent links,
and change nobody's parent. -/
theorem load_links_as_recorded {manifest : Value} (typed : isWellTyped manifest = true)
    {collection : Collection} (loaded : load manifest = .ok collection) :
    IsLinkedAsRecorded manifest collection ∧
      ∀ draft parented, draftOf manifest = .ok draft →
        linkParents draft.collection draft.records draft.collection.graph = .ok parented →
          ∀ id, (collection.graph.entity id).parent = (parented.entity id).parent := by
  obtain ⟨draft, loadable, rfl⟩ := (load_eq_ok_iff typed).mp loaded
  have drafted := loadable.drafted
  obtain ⟨classes, files, reading, rfl⟩ := (draftOf_eq_ok_iff typed).mp drafted
  have checked := loadable.checked
  have linked := checked.isLinked loadable.accepted loadable.acyclic
  constructor
  · constructor
    case classes => exact reading.classes_linkedAsRecorded typed checked loadable.resolves
    case files => exact reading.files_linkedAsRecorded typed checked
    case distinct =>
      rw [Draft.fullNames_linked]
      exact checked.distinct
    case nodup_children => exact linked.nodup_children
    case children_listed =>
      exact fun _ _ isChild => checked.mem_listed.mpr (checked.children_lt isChild)
    case parent_listed =>
      intro child parent hasParent
      obtain ⟨_, _, -, -, found⟩ := checked.hasParent_iff.mp hasParent
      exact checked.mem_listed.mpr (checked.find?_eq_some_iff.mp found).1
    case parent_contains => exact linked.parent_contains
  · intro other parented otherDrafted resolved id
    cases Except.ok.inj (otherDrafted.symm.trans drafted)
    obtain ⟨-, rfl⟩ := (linkParents_eq_ok_iff checked.typed).mp resolved
    exact Draft.parent_linked id

/-- A manifest where `A` lists a class of another file, a class below it, its file, a class twice
and itself. What it contains is met before and behind it. -/
def interleaved : Value :=
  .record
    [("classes", .list
      [.record [("full_name", .text "A::B"), ("parent", .text "A")],
       .record [("full_name", .text "A"), ("parent", .text ""),
        ("children", .list
          [.text "C", .text "A::B", .text "lib/x.rb", .text "C", .text "A"])],
       .record [("full_name", .text "C"), ("parent", .text "lib/x.rb")],
       .record [("full_name", .text "A::D"), ("parent", .text "A")]]),
     ("files", .list [.record [("full_name", .text "lib/x.rb")]])]

/-- The classes below `A` stand first, and the class of the file that it lists keeps its
parent. -/
theorem interleaved_links_as_recorded :
    isWellTyped interleaved = true ∧ ∃ collection, load interleaved = .ok collection ∧
      IsLinkedAsRecorded interleaved collection ∧
      collection.classes.map (fun id =>
          ((collection.graph.entity id).parent.map collection.graph.fullName,
            (collection.graph.entity id).children.map collection.graph.fullName)) =
        [(some "A", []), (none, ["A::B", "A::D", "C", "lib/x.rb", "A"]), (some "lib/x.rb", []),
          (some "A", [])] := by
  have typed : isWellTyped interleaved = true := by decide
  obtain ⟨collection, loaded, links⟩ : ∃ collection, load interleaved = .ok collection ∧
      collection.classes.map (fun id =>
          ((collection.graph.entity id).parent.map collection.graph.fullName,
            (collection.graph.entity id).children.map collection.graph.fullName)) =
        [(some "A", []), (none, ["A::B", "A::D", "C", "lib/x.rb", "A"]), (some "lib/x.rb", []),
          (some "A", [])] := ⟨_, rfl, rfl⟩
  exact ⟨typed, collection, loaded, (load_links_as_recorded typed loaded).1, links⟩

end DocAtlas.Manifest
