import DocAtlas.Proofs.Collection.Validation
import DocAtlas.Proofs.Tree.Shown
import DocAtlas.Search.Index
import DocAtlas.Tree

/-!
# Products of collections that show the same

A run sorts the entities of a collection by full name before it makes anything of them.
Of collections that show the same, the sorted files are in step, and so are the sorted
classes and modules that have documentation. So the file tree and the search index that
are made from them are the same.
-/

namespace DocAtlas

namespace Graph

/-- Sorting entities by full name sorts their names. -/
theorem map_byFullName (graph : Graph) (ids : List EntityId) :
    (graph.byFullName ids).map graph.fullName = (ids.map graph.fullName).mergeSort (· ≤ ·) :=
  List.map_mergeSort fun _ _ _ _ => rfl

/-- Sorting entities by full name loses none. -/
theorem byFullName_perm (graph : Graph) (ids : List EntityId) :
    (graph.byFullName ids).Perm ids :=
  List.mergeSort_perm _ _

/-- Entities sorted by full name have ascending full names. -/
theorem byFullName_ascending (graph : Graph) (ids : List EntityId) :
    ((graph.byFullName ids).map graph.fullName).Pairwise (· ≤ ·) := by
  rw [map_byFullName]
  exact List.pairwise_mergeSort' (· ≤ ·) (ids.map graph.fullName)

/-- Distinct names increase strictly once they are sorted. -/
theorem byFullName_increasing {graph : Graph} {ids : List EntityId}
    (distinct : (ids.map graph.fullName).Nodup) :
    ((graph.byFullName ids).map graph.fullName).Pairwise (· < ·) := by
  have nodup := ((byFullName_perm graph ids).map graph.fullName).nodup_iff.mpr distinct
  exact ((byFullName_ascending graph ids).and nodup).imp fun both =>
    lt_of_le_of_ne both.1 both.2

/-- Entities with distinct names are sorted alike in whatever order they are given. -/
theorem byFullName_of_perm {graph : Graph} {ids others : List EntityId}
    (distinct : (ids.map graph.fullName).Nodup) (perm : others.Perm ids) :
    graph.byFullName others = graph.byFullName ids := by
  have otherDistinct := (perm.map graph.fullName).nodup_iff.mpr distinct
  have sorted := List.pairwise_map.mp (byFullName_increasing distinct)
  have otherSorted := List.pairwise_map.mp (byFullName_increasing otherDistinct)
  refine List.Perm.eq_of_pairwise (fun left right _ _ before after => ?_) otherSorted sorted ?_
  · exact absurd (before.trans after) (lt_irrefl _)
  · exact ((byFullName_perm graph others).trans perm).trans (byFullName_perm graph ids).symm

/-- Where full names tell entities apart, each is the first of its name. -/
theorem firstOfEachName_of_distinct {graph : Graph} {ids : List EntityId} {seen : List String}
    (distinct : (ids.map graph.fullName).Nodup) (unseen : ∀ id ∈ ids, graph.fullName id ∉ seen) :
    graph.firstOfEachName ids seen = ids := by
  induction ids generalizing seen with
  | nil => rfl
  | cons id rest inductionHypothesis =>
      rw [List.map_cons, List.nodup_cons] at distinct
      rw [List.forall_mem_cons] at unseen
      unfold firstOfEachName
      rw [if_neg (by simpa using unseen.1), inductionHypothesis distinct.2]
      intro other isOther isSeen
      rcases List.mem_cons.mp isSeen with same | isEarlier
      · exact distinct.1 (same ▸ List.mem_map_of_mem isOther)
      · exact unseen.2 other isOther isEarlier

end Graph

namespace Collection

/-- A collection with both of its lists in order of full name. -/
def sorted (collection : Collection) : Collection where
  graph := collection.graph
  classes := collection.graph.byFullName collection.classes
  files := collection.graph.byFullName collection.files

namespace IsLinked

variable {collection : Collection} (linked : collection.IsLinked)
include linked

/-- Sorting its lists leaves a collection linked. -/
theorem sorted : collection.sorted.IsLinked where
  accepted := validate_of_perm (Graph.byFullName_perm _ _) (Graph.byFullName_perm _ _)
    linked.accepted
  orderly := linked.orderly
  relativeName := linked.relativeName
  mem_classes := fun id =>
    (Graph.byFullName_perm _ _).mem_iff.trans (linked.mem_classes id)
  mem_files := fun id => (Graph.byFullName_perm _ _).mem_iff.trans (linked.mem_files id)
  nodup_classes := (Graph.byFullName_perm _ _).nodup_iff.mpr linked.nodup_classes
  nodup_files := (Graph.byFullName_perm _ _).nodup_iff.mpr linked.nodup_files
  distinct := linked.distinct
  nodup_children := linked.nodup_children
  parent_contains := linked.parent_contains
  file_parent := linked.file_parent
  acyclic := linked.acyclic

/-- A file is one of the entities that a run can show. -/
theorem file_isShown {id : EntityId} (isFile : id ∈ collection.files) :
    collection.graph.IsShown id := by
  obtain ⟨isPlace, isNoNamespace⟩ := (linked.mem_files id).mp isFile
  refine ⟨isPlace, fun isNamespace => ?_⟩
  rw [isNoNamespace] at isNamespace
  exact Bool.noConfusion isNamespace

/-- The classes of a validated collection have distinct full names. -/
theorem distinct_classes : (collection.classes.map collection.graph.fullName).Nodup :=
  linked.nodup_fullNames (fun _ => linked.class_lt) linked.nodup_classes

/-- The files of a validated collection have distinct full names. -/
theorem distinct_files : (collection.files.map collection.graph.fullName).Nodup :=
  linked.nodup_fullNames (fun id isFile => ((linked.mem_files id).mp isFile).1) linked.nodup_files

/-- All classes of a validated collection are indexed, in the order of their full names. -/
theorem indexed_eq :
    collection.graph.indexed collection.classes =
      collection.graph.byFullName collection.classes := by
  have perm := collection.graph.byFullName_perm collection.classes
  refine Graph.firstOfEachName_of_distinct ?_ (by simp)
  exact (perm.map _).nodup_iff.mpr linked.distinct_classes

end IsLinked

end Collection

namespace Graph.ShowsNoMore

section Files

variable {left right : Graph} (forward : ShowsNoMore left right) {ids others : List EntityId}
  (areShown : ∀ id ∈ ids, left.IsShown id) (inStep : InStep left right ids others)
include forward areShown inStep

/-- Files in step are added to the same tree. -/
theorem addFiles_eq (entries : FileTrie.Entries) :
    left.addFiles ids entries = right.addFiles others entries := by
  induction inStep generalizing entries with
  | nil => rfl
  | cons pair _ inductionHypothesis =>
      rw [List.forall_mem_cons] at areShown
      unfold addFiles
      dsimp only
      rw [forward.read_eq areShown.1 pair Entity.relativeName fun _ => rfl,
        forward.read_eq areShown.1 pair Entity.path fun _ => rfl]
      simp only [inductionHypothesis areShown.2]

/-- Files in step give equal file trees. -/
theorem fileTree_eq (label : Value) : left.fileTree ids label = right.fileTree others label := by
  unfold fileTree
  rw [inStep.length_eq, forward.addFiles_eq areShown inStep]

end Files

variable {left right : Collection} (forward : ShowsNoMore left.graph right.graph)
  (leftLinked : left.IsLinked) (rightLinked : right.IsLinked)
include forward leftLinked rightLinked

/-- A file of one collection has a counterpart among the files of the other. -/
theorem file_forth {id : EntityId} (isFile : id ∈ left.files) :
    ∃ other ∈ right.files, IsCounterpart left.graph right.graph id other := by
  have isShown := leftLinked.file_isShown isFile
  obtain ⟨other, pair⟩ := forward.forth id isShown
  refine ⟨other, (rightLinked.mem_files other).mpr ⟨pair.isOtherPlace, ?_⟩, pair⟩
  rw [← forward.isNamespace_eq isShown pair]
  exact ((leftLinked.mem_files id).mp isFile).2

/-- A class with documentation has a counterpart that is a class with documentation. -/
theorem class_forth {id : EntityId} (isClass : id ∈ left.classes)
    (documented : left.graph.hasDocumentation id = true) :
    ∃ other ∈ right.classes, right.graph.hasDocumentation other = true ∧
      IsCounterpart left.graph right.graph id other := by
  obtain ⟨isPlace, isNamespace⟩ := (leftLinked.mem_classes id).mp isClass
  have isShown : left.graph.IsShown id := ⟨isPlace, fun _ => documented⟩
  obtain ⟨other, pair⟩ := forward.forth id isShown
  rw [forward.isNamespace_eq isShown pair] at isNamespace
  exact ⟨other, (rightLinked.mem_classes other).mpr ⟨pair.isOtherPlace, isNamespace⟩,
    forward.hasDocumentation_forth leftLinked rightLinked pair documented, pair⟩

variable (backward : ShowsNoMore right.graph left.graph)
include backward

/-- The sorted files of collections that show the same are in step. -/
theorem files_inStep :
    InStep left.graph right.graph (left.graph.byFullName left.files)
      (right.graph.byFullName right.files) := by
  have perm := left.graph.byFullName_perm left.files
  have otherPerm := right.graph.byFullName_perm right.files
  refine Pairing.forall₂_of_increasing (byFullName_increasing leftLinked.distinct_files)
    (byFullName_increasing rightLinked.distinct_files) (fun _ _ _ pair => pair.sameName) ?_ ?_
  · intro id isThere
    obtain ⟨other, isFile, pair⟩ :=
      forward.file_forth leftLinked rightLinked (perm.mem_iff.mp isThere)
    exact ⟨other, otherPerm.mem_iff.mpr isFile, pair⟩
  · intro other isThere
    obtain ⟨id, isFile, pair⟩ :=
      backward.file_forth rightLinked leftLinked (otherPerm.mem_iff.mp isThere)
    exact ⟨id, perm.mem_iff.mpr isFile, pair.symm⟩

/-- So are their sorted classes and modules that have documentation. -/
theorem documented_inStep :
    InStep left.graph right.graph
      ((left.graph.byFullName left.classes).filter left.graph.hasDocumentation)
      ((right.graph.byFullName right.classes).filter right.graph.hasDocumentation) := by
  have perm := left.graph.byFullName_perm left.classes
  have otherPerm := right.graph.byFullName_perm right.classes
  refine Pairing.forall₂_of_increasing
    ((byFullName_increasing leftLinked.distinct_classes).sublist (List.filter_sublist.map _))
    ((byFullName_increasing rightLinked.distinct_classes).sublist (List.filter_sublist.map _))
    (fun _ _ _ pair => pair.sameName) ?_ ?_
  · intro id isThere
    obtain ⟨isSorted, documented⟩ := List.mem_filter.mp isThere
    obtain ⟨other, isClass, otherDocumented, pair⟩ :=
      forward.class_forth leftLinked rightLinked (perm.mem_iff.mp isSorted) documented
    exact ⟨other, List.mem_filter.mpr ⟨otherPerm.mem_iff.mpr isClass, otherDocumented⟩, pair⟩
  · intro other isThere
    obtain ⟨isSorted, documented⟩ := List.mem_filter.mp isThere
    obtain ⟨id, isClass, otherDocumented, pair⟩ :=
      backward.class_forth rightLinked leftLinked (otherPerm.mem_iff.mp isSorted) documented
    exact ⟨id, List.mem_filter.mpr ⟨perm.mem_iff.mpr isClass, otherDocumented⟩, pair.symm⟩

omit leftLinked rightLinked backward in
/-- Entities in step give equal search records. -/
theorem records_eq {ids others : List EntityId} (areShown : ∀ id ∈ ids, left.graph.IsShown id)
    (inStep : InStep left.graph right.graph ids others) :
    ids.flatMap left.graph.recordsOf = others.flatMap right.graph.recordsOf := by
  induction inStep with
  | nil => rfl
  | @cons id other _ _ pair _ inductionHypothesis =>
      rw [List.forall_mem_cons] at areShown
      have sameRecords : left.graph.recordsOf id = right.graph.recordsOf other :=
        forward.read_eq areShown.1 pair (fun entity : Entity =>
          (if entity.isDocumented then
            [SearchRecord.entity entity.kind.word entity.fullName entity.path] else []) ++
          entity.methods.map fun method =>
            SearchRecord.method entity.fullName method.name method.summary method.anchorUrl)
          fun _ => rfl
      rw [List.flatMap_cons, List.flatMap_cons, sameRecords, inductionHypothesis areShown.2]

/-- Collections that show the same have the same search index. -/
theorem searchIndex_eq :
    left.graph.searchIndex left.classes = right.graph.searchIndex right.classes := by
  unfold Graph.searchIndex
  rw [leftLinked.indexed_eq, rightLinked.indexed_eq,
    forward.records_eq ?_ (forward.documented_inStep leftLinked rightLinked backward)]
  intro id isThere
  obtain ⟨isSorted, documented⟩ := List.mem_filter.mp isThere
  have isClass := (left.graph.byFullName_perm left.classes).mem_iff.mp isSorted
  exact ⟨leftLinked.class_lt isClass, fun _ => documented⟩

end Graph.ShowsNoMore

end DocAtlas
