import DocAtlas.Proofs.Generation.Agreement
import DocAtlas.Proofs.Manifest.Remainder

/-!
# Undocumented entities do not interfere

A manifest may be loaded without the classes and modules that have no documentation, and
nothing that a run makes can tell: neither their records nor the references to them, be they
parts of cycles or of detours between documented entities. Documentation is handed up along
containment, so no record that is left has lost its parent.
-/

namespace DocAtlas

/-- The full names of the classes and modules of a collection without documentation. -/
def Collection.undocumentedNames (collection : Collection) : List String :=
  (collection.classes.filter fun id => !collection.graph.hasDocumentation id).map
    collection.graph.fullName

namespace Collection.IsLinked

variable {collection : Collection} (linked : collection.IsLinked)
include linked

/-- The classes and modules without documentation are what is not shown. -/
theorem fullName_mem_undocumentedNames_iff {id : EntityId} (isPlace : id < collection.graph.size) :
    collection.graph.fullName id ∈ collection.undocumentedNames ↔
      ¬ collection.graph.IsShown id := by
  unfold undocumentedNames Graph.IsShown
  rw [List.mem_map]
  constructor
  · rintro ⟨other, isLeftOut, sameName⟩ ⟨-, documented⟩
    obtain ⟨isClass, undocumented⟩ := List.mem_filter.mp isLeftOut
    obtain ⟨otherPlace, isNamespace⟩ := (linked.mem_classes other).mp isClass
    obtain rfl := linked.distinct other id otherPlace isPlace sameName
    rw [documented isNamespace] at undocumented
    exact absurd undocumented (by decide)
  · intro unshown
    have isNamespace : collection.graph.isNamespace id = true := by
      by_contra isFile
      exact unshown ⟨isPlace, fun isNamespace => absurd isNamespace isFile⟩
    refine ⟨id, List.mem_filter.mpr ⟨(linked.mem_classes id).mpr ⟨isPlace, isNamespace⟩, ?_⟩, rfl⟩
    rw [Bool.not_eq_true']
    by_contra documented
    exact unshown ⟨isPlace, fun _ => eq_true_of_ne_false documented⟩

/-- The parent of a class or module that is shown is shown. -/
theorem isShown_of_hasParent {child parent : EntityId} (isClass : child ∈ collection.classes)
    (hasParent : collection.graph.HasParent child parent)
    (isShown : collection.graph.IsShown child) : collection.graph.IsShown parent := by
  have isNamespace := ((linked.mem_classes child).mp isClass).2
  have contains := linked.contains_of_hasParent isNamespace hasParent
  exact ⟨contains.lt_size,
    fun _ => linked.hasDocumentation_of_contains contains (isShown.2 isNamespace)⟩

end Collection.IsLinked

/-- The outcome of building a tree, without what it notes. -/
theorem Generation.outcome_buildTree (graph : Graph) (classes files : List EntityId)
    (label : Value) :
    (buildTree graph classes files label).outcome = (do
      let fileNodes ← graph.fileTree files label
      let classNodes ← graph.classTree classes
      pure (fileNodes ++ classNodes)) := by
  unfold buildTree
  simp only [Noted.outcome_bind, Noted.outcome_note, Noted.outcome_noteAll, Noted.outcome_liftM,
    Checked.ok_bind]
  rfl

namespace Manifest

/-- A manifest is loaded without the records of the undocumented classes and modules, and
without the references to them, and everything made of it is the same: the tree, the records
and the name index of the search, and what a whole run leaves behind. -/
theorem undocumented_do_not_interfere {manifest : Value} (typed : isWellTyped manifest = true)
    {collection : Collection} (loaded : load manifest = .ok collection) :
    ∃ remainder, load (without collection.undocumentedNames manifest) = .ok remainder ∧
      (∀ label,
        (Generation.buildTree remainder.graph remainder.classes remainder.files label).outcome =
          (Generation.buildTree collection.graph collection.classes collection.files
            label).outcome) ∧
      remainder.graph.searchIndex remainder.classes =
        collection.graph.searchIndex collection.classes ∧
      ∀ settings system,
        Generation.effects settings remainder system =
          Generation.effects settings collection system := by
  have linked := isLinked_of_load typed loaded
  obtain ⟨remainder, otherLoaded, forward, backward, sameFiles⟩ :=
    load_without typed loaded
      (fun child isClass parent hasParent isLeftOut => by
        rw [linked.fullName_mem_undocumentedNames_iff (linked.parent_lt hasParent)] at isLeftOut
        rw [linked.fullName_mem_undocumentedNames_iff hasParent.lt_size]
        exact fun isShown => isLeftOut (linked.isShown_of_hasParent isClass hasParent isShown))
      (fun id isShown => by
        rw [linked.fullName_mem_undocumentedNames_iff isShown.1, not_not]
        exact isShown)
  have otherLinked := isLinked_of_load (isWellTyped_without _ typed) otherLoaded
  have filesInStep : Graph.InStep collection.graph remainder.graph collection.files
      remainder.files := by
    refine (Pairing.forall₂_of_map_eq sameFiles).imp fun id other both => ?_
    exact ⟨((linked.mem_files id).mp both.1).1, ((otherLinked.mem_files other).mp both.2.1).1,
      both.2.2⟩
  refine ⟨remainder, otherLoaded, fun label => ?_, ?_, ?_⟩
  · have sameClasses := forward.classTree_eq linked otherLinked backward
    have sameFileTree := forward.fileTree_eq (fun _ => linked.file_isShown) filesInStep label
    rw [Generation.outcome_buildTree, Generation.outcome_buildTree, sameClasses, sameFileTree]
  · exact (forward.searchIndex_eq linked otherLinked backward).symm
  · exact fun settings system =>
      (forward.effects_eq linked otherLinked backward settings system).symm

/-- A manifest with two undocumented classes that list each other: `Ghost` stands below the
module `A`, and `Shell` below `Ghost`. The documented class `B` lists `Shell`. -/
def haunted : Value :=
  .record
    [("classes", .list
      [.record [("full_name", .text "A"), ("kind", .text "module"),
        ("children", .list [.text "Ghost", .text "B"])],
       .record [("full_name", .text "Ghost"), ("parent", .text "A"), ("path", .text "Ghost.html"),
        ("children", .list [.text "Shell", .text "lib/a.rb"])],
       .record [("full_name", .text "B"), ("path", .text "B.html"), ("documents_self", .bool true),
        ("children", .list [.text "Shell", .text "A"])],
       .record [("full_name", .text "Shell"), ("parent", .text "Ghost"),
        ("children", .list [.text "Ghost", .text "Shell"])]]),
     ("files", .list [.record [("full_name", .text "lib/a.rb")],
       .record [("full_name", .text "README")]])]

/-- What `haunted` tells of `A` and `B` and of its files. -/
def exorcised : Value :=
  .record
    [("classes", .list
      [.record [("full_name", .text "A"), ("kind", .text "module"),
        ("children", .list [.text "B"])],
       .record [("full_name", .text "B"), ("path", .text "B.html"), ("documents_self", .bool true),
        ("children", .list [.text "A"])]]),
     ("files", .list [.record [("full_name", .text "lib/a.rb")],
       .record [("full_name", .text "README")]])]

/-- The two manifests have the same tree and search index, and runs over them leave the same
behind. -/
theorem haunted_as_exorcised :
    isWellTyped haunted = true ∧ ∃ collection remainder, load haunted = .ok collection ∧
      collection.undocumentedNames = ["Ghost", "Shell"] ∧
      without ["Ghost", "Shell"] haunted = exorcised ∧ load exorcised = .ok remainder ∧
      (Generation.buildTree remainder.graph remainder.classes remainder.files
          (.text "Files")).outcome =
        (Generation.buildTree collection.graph collection.classes collection.files
          (.text "Files")).outcome ∧
      remainder.graph.searchIndex remainder.classes =
        collection.graph.searchIndex collection.classes ∧
      ∀ settings system,
        Generation.effects settings remainder system =
          Generation.effects settings collection system := by
  have typed : isWellTyped haunted = true := by decide
  obtain ⟨collection, loaded, undocumented⟩ : ∃ collection, load haunted = .ok collection ∧
      collection.undocumentedNames = ["Ghost", "Shell"] := by
    refine ⟨_, rfl, ?_⟩
    decide
  have isLeft : without ["Ghost", "Shell"] haunted = exorcised := rfl
  obtain ⟨remainder, otherLoaded, sameTree, sameIndex, sameEffects⟩ :=
    undocumented_do_not_interfere typed loaded
  rw [undocumented, isLeft] at otherLoaded
  exact ⟨typed, collection, remainder, loaded, undocumented, isLeft, otherLoaded,
    sameTree (.text "Files"), sameIndex, sameEffects⟩

end Manifest

end DocAtlas
