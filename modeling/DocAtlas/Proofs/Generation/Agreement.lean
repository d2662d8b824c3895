import DocAtlas.Proofs.Generation.Outcome
import DocAtlas.Proofs.Generation.Products

/-!
# Runs over collections that show the same

A run makes the same of collections that show the same: it fails for both in the same way,
or builds the same products for both and leaves the same file system. Only the index page
may differ where none is named, since it is the first of the files as they are given.
-/

namespace DocAtlas.Graph.ShowsNoMore

variable {left right : Collection} (forward : ShowsNoMore left.graph right.graph)
  (leftLinked : left.IsLinked) (rightLinked : right.IsLinked)
include forward leftLinked rightLinked

/-- What has no file for an index page shows no file for one. -/
theorem noFileAt_back {target : Path}
    (noFile : ∀ other ∈ right.files,
      Settings.pathOf (right.graph.entity other).relativeName ≠ .ok target) :
    ∀ id ∈ left.files, Settings.pathOf (left.graph.entity id).relativeName ≠ .ok target := by
  intro id isFile
  obtain ⟨other, isThere, pair⟩ := forward.file_forth leftLinked rightLinked isFile
  rw [forward.read_eq (leftLinked.file_isShown isFile) pair Entity.relativeName fun _ => rfl]
  exact noFile other isThere

variable (backward : ShowsNoMore right.graph left.graph)
include backward

/-- Choosing an index page fails for both or for neither, and for the same reason. -/
theorem chooseMainPage_eq (wanted : Value) :
    (Generation.chooseMainPage left.graph left.files wanted).map (fun _ => ()) =
      (Generation.chooseMainPage right.graph right.files wanted).map fun _ => () := by
  have leftTexts : ∀ id ∈ left.files, ∃ relativeName,
      (left.graph.entity id).relativeName = .text relativeName := fun id isFile =>
    leftLinked.relativeName id ((leftLinked.mem_files id).mp isFile).1
  have rightTexts : ∀ id ∈ right.files, ∃ relativeName,
      (right.graph.entity id).relativeName = .text relativeName := fun id isFile =>
    rightLinked.relativeName id ((rightLinked.mem_files id).mp isFile).1
  unfold Generation.chooseMainPage Generation.mainPageId
  split
  · rfl
  · cases Settings.pathOf wanted with
    | error failure => rfl
    | ok target =>
        obtain ⟨found, answer, isNone⟩ := @Generation.fileAt_eq_ok left.graph target _ leftTexts
        obtain ⟨other, otherAnswer, isOtherNone⟩ :=
          @Generation.fileAt_eq_ok right.graph target _ rightTexts
        have together : found = none ↔ other = none := by
          rw [isNone, isOtherNone]
          exact ⟨backward.noFileAt_back rightLinked leftLinked,
            forward.noFileAt_back leftLinked rightLinked⟩
        rw [Checked.ok_bind, Checked.ok_bind, answer, otherAnswer]
        cases found with
        | none =>
            rw [together.mp rfl]
            rfl
        | some id =>
            cases other with
            | none => exact absurd (together.mpr rfl) (by simp)
            | some other => rfl

/-- What a run prepares does not tell apart collections that show the same. -/
theorem prepare_eq (settings : Settings) :
    (Generation.prepare settings left).outcome.map Generation.products =
      (Generation.prepare settings right).outcome.map Generation.products := by
  have samePages := forward.chooseMainPage_eq leftLinked rightLinked backward settings.mainPage
  have sameFileTree : left.graph.fileTree (left.graph.byFullName left.files) settings.filesLabel =
      right.graph.fileTree (right.graph.byFullName right.files) settings.filesLabel :=
    forward.fileTree_eq (fun _ isFile => leftLinked.sorted.file_isShown isFile)
      (forward.files_inStep leftLinked rightLinked backward) settings.filesLabel
  have sameClassTree : left.graph.classTree (left.graph.byFullName left.classes) =
      right.graph.classTree (right.graph.byFullName right.classes) :=
    @classTree_eq left.sorted right.sorted forward leftLinked.sorted rightLinked.sorted backward
  have sameIndex : left.graph.searchIndex (left.graph.byFullName left.classes) =
      right.graph.searchIndex (right.graph.byFullName right.classes) :=
    @searchIndex_eq left.sorted right.sorted forward leftLinked.sorted rightLinked.sorted backward
  have leftAccepted : Collection.validate ⟨left.graph, left.graph.byFullName left.classes,
      left.graph.byFullName left.files⟩ = .ok () := leftLinked.sorted.accepted
  have rightAccepted : Collection.validate ⟨right.graph, right.graph.byFullName right.classes,
      right.graph.byFullName right.files⟩ = .ok () := rightLinked.sorted.accepted
  rw [Generation.outcome_prepare, Generation.outcome_prepare]
  dsimp only
  rw [leftAccepted, rightAccepted, sameFileTree, sameClassTree, sameIndex]
  cases settings.treePath with
  | error failure => rfl
  | ok treePath =>
      cases settings.searchIndexPath with
      | error failure => rfl
      | ok indexPath =>
          simp only [Checked.ok_bind]
          -- The pages may differ, but no product is made of them.
          refine Checked.map_bind_eq_map_bind samePages fun page otherPage => ?_
          cases Generation.checkTitle settings with
          | error failure => rfl
          | ok title =>
              cases right.graph.fileTree (right.graph.byFullName right.files)
                  settings.filesLabel with
              | error failure => rfl
              | ok fileNodes =>
                  cases right.graph.classTree (right.graph.byFullName right.classes) with
                  | error failure => rfl
                  | ok classNodes =>
                      simp only [Checked.ok_bind]
                      cases Generation.render settings treePath indexPath
                          (fileNodes ++ classNodes)
                          (right.graph.searchIndex (right.graph.byFullName right.classes)) with
                      | error failure => rfl
                      | ok artifacts => rfl

/-- Runs over collections that show the same leave the same behind. -/
theorem effects_eq (settings : Settings) (system : FileSystem) :
    Generation.effects settings left system = Generation.effects settings right system := by
  rw [Generation.effects_eq, Generation.effects_eq,
    forward.prepare_eq leftLinked rightLinked backward]

end DocAtlas.Graph.ShowsNoMore
