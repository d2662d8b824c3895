import DocAtlas.Proofs.Manifest.Loading
import DocAtlas.Proofs.Tree.Coverage
import DocAtlas.Proofs.Tree.FileTree
import DocAtlas.Tree

/-!
# Navigation trees of loaded manifests

The files of a loaded manifest have texts for relative names and paths, so its navigation
tree is made unless they collide. It is the tree of the files, and behind it the nodes that
show the forest of the classes and modules.
-/

namespace DocAtlas.Manifest

variable {manifest : Value} (typed : isWellTyped manifest = true) {collection : Collection}
  (loaded : load manifest = .ok collection)
include typed loaded

/-- The files of a typed manifest have texts. -/
theorem hasTexts_of_load : ∀ id ∈ collection.files, collection.graph.HasTexts id := by
  intro id isFile
  have linked := isLinked_of_load typed loaded
  have isPlace := ((linked.mem_files id).mp isFile).1
  obtain ⟨relativeName, isText⟩ := linked.relativeName id isPlace
  exact ⟨by rw [isText]; rfl, path_isText_of_load typed loaded isPlace⟩

/-- A navigation tree has the file tree in front and the class forest behind it. -/
theorem nodes_of_tree {label : Value} {nodes : List Node}
    (made : collection.graph.tree collection.classes collection.files label = .ok nodes) :
    ∃ fileNodes classNodes, nodes = fileNodes ++ classNodes ∧
      collection.graph.fileTree collection.files label = .ok fileNodes ∧
      collection.graph.Shows classNodes collection.forest := by
  obtain ⟨fileNodes, madeFiles, made⟩ := Checked.bind_eq_ok.mp made
  obtain ⟨classNodes, madeClasses, made⟩ := Checked.bind_eq_ok.mp made
  obtain rfl := Except.ok.inj made
  obtain ⟨shown, madeShown, shows⟩ := (isLinked_of_load typed loaded).classTree_shows
  obtain rfl := Except.ok.inj (madeShown.symm.trans madeClasses)
  exact ⟨fileNodes, _, rfl, madeFiles, shows⟩

/-- A loaded manifest has a navigation tree unless it has several files and they collide. -/
theorem exists_tree_iff (label : Value) :
    (∃ nodes, collection.graph.tree collection.classes collection.files label = .ok nodes) ↔
      (2 ≤ collection.files.length → ¬ collection.graph.Collide collection.files) := by
  have texts := hasTexts_of_load typed loaded
  constructor
  · rintro ⟨nodes, made⟩ several
    obtain ⟨fileNodes, -, -, madeFiles, -⟩ := nodes_of_tree typed loaded made
    exact (Graph.group_of_fileTree several texts madeFiles).1
  · intro fit
    obtain ⟨fileNodes, madeFiles⟩ :
        ∃ nodes, collection.graph.fileTree collection.files label = .ok nodes := by
      by_cases several : 2 ≤ collection.files.length
      · obtain ⟨children, madeFiles, -⟩ :=
          Graph.fileTree_of_not_collide several texts label (fit several)
        exact ⟨_, madeFiles⟩
      · exact ⟨[], if_pos (Nat.le_of_lt_succ (Nat.lt_of_not_le several))⟩
    obtain ⟨classNodes, madeClasses, -⟩ := (isLinked_of_load typed loaded).classTree_shows
    exact ⟨fileNodes ++ classNodes, by rw [Graph.tree, madeFiles, madeClasses]; rfl⟩

end DocAtlas.Manifest
