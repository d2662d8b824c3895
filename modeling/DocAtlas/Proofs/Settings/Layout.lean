import DocAtlas.Proofs.Settings.Acceptance

/-!
# Layout of the output directory

The paths of both artifacts are made by joining what their names spell to the path of the
output directory. Acceptance compares the names as they are written, so it keeps the
artifacts apart only as far as different names spell different paths.
-/

namespace DocAtlas.Settings

/-- A path without root stands behind the components of the path that it is joined to. -/
theorem join_of_relative {base path : Path} (isRelative : path.isAbsolute = false) :
    base.join path = ⟨base.root, base.components ++ path.components⟩ := by
  unfold Path.join
  rw [isRelative]
  rfl

section Artifacts

variable {settings : Settings} {output : Path} (isOutput : settings.outputPath = .ok output)
include isOutput

/-- A file that stays below the output directory has the components of the directory and
behind them its own. -/
theorem below_eq {file : String} (stays : StaysBelow file) :
    settings.below file =
      .ok ⟨output.root, output.components ++ (Path.ofString file).components⟩ := by
  unfold below
  rw [isOutput, Checked.ok_bind, join_of_relative stays.isRelative]
  rfl

end Artifacts

/-- Paths without root are told apart by their components. -/
theorem eq_of_components_eq {left right : Path} (leftRelative : left.isAbsolute = false)
    (rightRelative : right.isAbsolute = false) (same : left.components = right.components) :
    left = right := by
  unfold Path.isAbsolute at leftRelative rightRelative
  simp only [decide_eq_false_iff_not, not_not] at leftRelative rightRelative
  obtain ⟨root, components⟩ := left
  obtain ⟨otherRoot, otherComponents⟩ := right
  subst same leftRelative rightRelative
  rfl

/-- Of accepted settings the two artifacts have one path exactly when their names spell one
path, and an artifact has the path of the output directory exactly when its name spells a
path without components. -/
theorem artifacts_clash_iff {environment : Environment} {fields : List (String × Value)}
    {settings : Settings} {directory : String}
    (accepted : ofFields environment fields = .ok settings)
    (isText : settings.outputDir = .text directory) :
    ∃ output tree index, settings.outputPath = .ok output ∧ settings.treePath = .ok tree ∧
      settings.searchIndexPath = .ok index ∧
      (tree = index ↔ Path.ofString settings.treeFile = Path.ofString settings.searchIndexFile) ∧
      (tree = output ↔ (Path.ofString settings.treeFile).components = []) ∧
      (index = output ↔ (Path.ofString settings.searchIndexFile).components = []) := by
  have promises := isAccepted_of_ofFields accepted
  have isOutput : settings.outputPath = .ok (Path.ofString directory) := by
    unfold outputPath
    rw [isText]
    rfl
  refine ⟨_, _, _, isOutput, below_eq isOutput promises.treeFile,
    below_eq isOutput promises.searchIndexFile, ?_, ?_, ?_⟩
  · constructor
    · intro same
      have sameComponents := List.append_cancel_left (congrArg Path.components same)
      exact eq_of_components_eq promises.treeFile.isRelative promises.searchIndexFile.isRelative
        sameComponents
    · intro same
      rw [same]
  · rw [Path.mk.injEq]
    simp
  · rw [Path.mk.injEq]
    simp

/-- The default layout keeps everything apart, as does a name that spells its path with
points and doubled slashes. -/
theorem spelled_layout_apart :
    ∃ settings, ofFields [] [("tree_file", .text "./panel//tree.js")] = .ok settings ∧
      settings.outputDir = .text "doc" ∧
      ∃ output tree index, settings.outputPath = .ok output ∧ settings.treePath = .ok tree ∧
        settings.searchIndexPath = .ok index ∧ tree ≠ index ∧ tree ≠ output ∧ index ≠ output := by
  obtain ⟨settings, accepted, isText, differ, treeNamed, indexNamed⟩ :
      ∃ settings, ofFields [] [("tree_file", .text "./panel//tree.js")] = .ok settings ∧
        settings.outputDir = .text "doc" ∧
        Path.ofString settings.treeFile ≠ Path.ofString settings.searchIndexFile ∧
        (Path.ofString settings.treeFile).components ≠ [] ∧
        (Path.ofString settings.searchIndexFile).components ≠ [] :=
    ⟨_, rfl, rfl, by decide, by decide, by decide⟩
  obtain ⟨output, tree, index, isOutput, isTree, isIndex, clash, treeClash, indexClash⟩ :=
    artifacts_clash_iff accepted isText
  exact ⟨settings, accepted, isText, output, tree, index, isOutput, isTree, isIndex,
    mt clash.mp differ, mt treeClash.mp treeNamed, mt indexClash.mp indexNamed⟩

/-- Settings are accepted though both artifacts have one path, or though one of them has the
path of the output directory. -/
theorem artifacts_clash :
    (∃ settings, ofFields [] [("tree_file", .text "panel/tree.js"),
        ("search_index_file", .text "panel//tree.js")] = .ok settings ∧
      ∃ path, settings.treePath = .ok path ∧ settings.searchIndexPath = .ok path) ∧
    ∃ settings, ofFields [] [("tree_file", .text ".")] = .ok settings ∧
      ∃ path, settings.treePath = .ok path ∧ settings.outputPath = .ok path :=
  ⟨⟨_, rfl, _, rfl, rfl⟩, ⟨_, rfl, _, rfl, rfl⟩⟩

end DocAtlas.Settings
