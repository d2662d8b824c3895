import DocAtlas.Proofs.Generation.Causes
import DocAtlas.Proofs.Generation.Endings

/-!
# Dry runs

A dry run rehearses the run that writes: it makes the same preparation and leaves the files
alone. So it foretells how the run ends that differs in nothing else. What it cannot foretell
is trouble with writing, and every other failure comes to light before anything is written.
-/

namespace DocAtlas

/-- Where paths have no null character, artifacts fail to be written for trouble of writing. -/
theorem Artifact.writeAll_fails {artifacts : List Artifact}
    (noNull : ∀ artifact ∈ artifacts, artifact.path.hasNull = false) {system : FileSystem}
    {failure : Failure} (fails : (writeAll artifacts system).2.outcome = .error failure) :
    ∃ path reason, failure = .fault (.unwritable path reason) := by
  induction artifacts generalizing system failure with
  | nil => cases fails
  | cons artifact rest inductionHypothesis =>
      rw [List.forall_mem_cons] at noNull
      rcases writes : artifact.write system with ⟨after, written⟩
      rcases write_cases noNull.1 writes with
        ⟨reason, failsHere, -⟩ | ⟨made, location, succeeds, -⟩
      · rw [(writeAll_cons_of_error rest writes failsHere).2] at fails
        exact ⟨_, reason, (Except.error.inj fails).symm⟩
      · rw [(writeAll_cons_of_ok rest writes succeeds).2] at fails
        cases later : (writeAll rest after).2.outcome with
        | ok paths =>
            rw [later] at fails
            cases fails
        | error other =>
            rw [later] at fails
            obtain rfl : other = failure := Except.error.inj fails
            exact inductionHypothesis noNull.2 later

namespace Generation

variable {settings : Settings} {collection : Collection}

/-- How a dry run and a run that writes end that differ in nothing else, for the file systems
before and after the run that writes. -/
inductive Foretold (before after : FileSystem) :
    (rehearsed performed : Checked (Generation × List Path)) → Prop where
  /-- Both return, with the same tree, search index and index page. Only the dry run has no
  paths to report. -/
  | returned (rehearsal performance : Generation) (written : List Path)
      (tree : rehearsal.tree = performance.tree) (index : rehearsal.index = performance.index)
      (mainPage : rehearsal.mainPage = performance.mainPage) :
      Foretold before after (.ok (rehearsal, [])) (.ok (performance, written))
  /-- The one fails to write at a path, and the other returns. -/
  | unwritable (rehearsal : Generation) (path : Path) (reason : String) :
      Foretold before after (.ok (rehearsal, [])) (.error (.fault (.unwritable path reason)))
  /-- Both fail for the same reason, which is none of writing, and nothing was written. -/
  | refused (failure : Failure) (isNotOfWriting : failure.isOfWriting = false)
      (unchanged : after = before) :
      Foretold before after (.error failure) (.error failure)

/-- What is prepared depends on the choice to run dry only as far as it is noted down. -/
theorem prepare_withDryRun (settings : Settings) (dryRun : Value) (collection : Collection) :
    (prepare { settings with dryRun } collection).outcome =
      (prepare settings collection).outcome.map fun generation =>
        { generation with isDry := dryRun.isGiven } := by
  show _ = (fun generation : Generation => { generation with isDry := dryRun.isGiven }) <$>
    (prepare settings collection).outcome
  rw [outcome_prepare, outcome_prepare]
  simp only [map_bind, map_pure]
  rfl

/-- A run whose preparation fails leaves everything as it is. -/
theorem run_of_error {failure : Failure}
    (fails : (prepare settings collection).outcome = .error failure) (system : FileSystem) :
    (run settings collection system).1 = system ∧
      (run settings collection system).2.outcome = .error failure := by
  unfold run
  dsimp only
  rw [fails]
  exact ⟨rfl, rfl⟩

/-- A dry run that was prepared returns and leaves everything as it is. -/
theorem run_of_dry {generation : Generation}
    (isPrepared : (prepare settings collection).outcome = .ok generation)
    (isDry : generation.isDry = true) (system : FileSystem) :
    (run settings collection system).1 = system ∧
      (run settings collection system).2.outcome = .ok (generation, []) := by
  unfold run write Artifact.emit
  dsimp only
  rw [isPrepared]
  dsimp only
  rw [isDry, if_pos rfl]
  exact ⟨rfl, rfl⟩

/-- A dry run leaves the file system as it is, and tells how the run ends that differs from it
in nothing but that it writes. The paths of the artifacts, where the output directory spells
any, have no null characters. -/
theorem run_foretold {dry wet : Value} (isDry : dry.isGiven = true) (isWet : wet.isGiven = false)
    (treeNoNull : ∀ path, settings.treePath = .ok path → path.hasNull = false)
    (indexNoNull : ∀ path, settings.searchIndexPath = .ok path → path.hasNull = false)
    (collection : Collection) (system : FileSystem) :
    (run { settings with dryRun := dry } collection system).1 = system ∧
      Foretold system (run { settings with dryRun := wet } collection system).1
        (run { settings with dryRun := dry } collection system).2.outcome
        (run { settings with dryRun := wet } collection system).2.outcome := by
  have dryPrepared := prepare_withDryRun settings dry collection
  have wetPrepared := prepare_withDryRun settings wet collection
  rw [isDry] at dryPrepared
  rw [isWet] at wetPrepared
  cases prepared : (prepare settings collection).outcome with
  | error failure =>
      rw [prepared] at dryPrepared wetPrepared
      obtain ⟨dryLeaves, dryEnds⟩ := run_of_error dryPrepared system
      obtain ⟨wetLeaves, wetEnds⟩ := run_of_error wetPrepared system
      rw [dryLeaves, dryEnds, wetLeaves, wetEnds]
      exact ⟨rfl, .refused failure (prepare_sparesWriting settings collection failure prepared) rfl⟩
  | ok generation =>
      rw [prepared] at dryPrepared wetPrepared
      obtain ⟨dryLeaves, dryEnds⟩ := run_of_dry dryPrepared rfl system
      obtain ⟨-, wetEnds⟩ := run_of_prepared wetPrepared rfl system
      rw [dryLeaves, dryEnds, wetEnds]
      refine ⟨rfl, ?_⟩
      cases writes : (Artifact.writeAll generation.artifacts system).2.outcome with
      | ok written => exact .returned _ _ written rfl rfl rfl
      | error failure =>
          obtain ⟨treePath, indexPath, _, _, parts⟩ := exists_isMadeOf prepared
          have artifacts := (artifacts_of_prepare parts.isTree parts.isIndex prepared).1
          have noNull : ∀ artifact ∈ generation.artifacts, artifact.path.hasNull = false := by
            rw [artifacts]
            simp [treeNoNull treePath parts.isTree, indexNoNull indexPath parts.isIndex]
          obtain ⟨path, reason, rfl⟩ := Artifact.writeAll_fails noNull writes
          exact .unwritable _ path reason

/-- With the default settings a run over the blocked directory fails when it writes its tree. The
dry run returns, and leaves the directory as it is. -/
theorem blocked_run_foretold :
    ∃ settings, Settings.ofFields [] [] = .ok settings ∧
      Value.isGiven (.bool true) = true ∧ Value.isGiven (.bool false) = false ∧
      (∀ path, settings.treePath = .ok path → path.hasNull = false) ∧
      (∀ path, settings.searchIndexPath = .ok path → path.hasNull = false) ∧
      (run { settings with dryRun := .bool false } default
        blockedSystem).2.outcome.toOption.isNone = true ∧
      (run { settings with dryRun := .bool true } default
        blockedSystem).2.outcome.toOption.isSome = true ∧
      (run { settings with dryRun := .bool true } default blockedSystem).1 = blockedSystem ∧
      Foretold blockedSystem
        (run { settings with dryRun := .bool false } default blockedSystem).1
        (run { settings with dryRun := .bool true } default blockedSystem).2.outcome
        (run { settings with dryRun := .bool false } default blockedSystem).2.outcome := by
  obtain ⟨settings, treePath, indexPath, accepted, isTree, isIndex, treeNoNull, indexNoNull, fails,
      returns⟩ :
      ∃ settings treePath indexPath, Settings.ofFields [] [] = .ok settings ∧
        settings.treePath = .ok treePath ∧ settings.searchIndexPath = .ok indexPath ∧
        treePath.hasNull = false ∧ indexPath.hasNull = false ∧
        (run { settings with dryRun := .bool false } default
          blockedSystem).2.outcome.toOption.isNone = true ∧
        (run { settings with dryRun := .bool true } default
          blockedSystem).2.outcome.toOption.isSome = true :=
    ⟨_, _, _, rfl, rfl, rfl, by decide, by decide, by decide +kernel, by decide +kernel⟩
  have treeIsOnly : ∀ path, settings.treePath = .ok path → path.hasNull = false := by
    intro path isPath
    rw [isTree] at isPath
    cases isPath
    exact treeNoNull
  have indexIsOnly : ∀ path, settings.searchIndexPath = .ok path → path.hasNull = false := by
    intro path isPath
    rw [isIndex] at isPath
    cases isPath
    exact indexNoNull
  have isDry : Value.isGiven (.bool true) = true := rfl
  have isWet : Value.isGiven (.bool false) = false := rfl
  obtain ⟨leaves, foretold⟩ :=
    run_foretold isDry isWet treeIsOnly indexIsOnly default blockedSystem
  exact ⟨settings, accepted, isDry, isWet, treeIsOnly, indexIsOnly, fails, returns, leaves,
    foretold⟩

end Generation

end DocAtlas
