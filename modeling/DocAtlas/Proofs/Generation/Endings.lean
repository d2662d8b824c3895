import DocAtlas.Proofs.Artifact.Writing
import DocAtlas.Proofs.Generation.Outcome
import DocAtlas.Proofs.Settings.Layout

/-!
# Endings of a run

This module says in which states a run that writes can leave the files. Either both
artifacts are new, or no file was touched, or the search index is new and the tree could
not be written. The search index is written first, so a new tree never stands beside an
old search index.
-/

namespace DocAtlas

open FileSystem

namespace Artifact

variable {before after : FileSystem} {artifact : Artifact}

/-- An artifact is written at a path that is ready once directories are made, and else
nothing but directories is made and its path is reported. -/
theorem write_cases (noNull : artifact.path.hasNull = false) {written : Noted Path}
    (writes : artifact.write before = (after, written)) :
    (∃ reason, written.outcome = .error (.fault (.unwritable artifact.path reason)) ∧
        Grows before after) ∨
      ∃ made location, written.outcome = .ok artifact.path ∧ Grows before made ∧
        made.IsReady artifact.path location ∧
        after = made.set location (.file artifactMode artifact.content) := by
  rcases writeWith_cases writes with
    ⟨failure, fails, along, named⟩ | ⟨made, location, succeeds, along, ready, rfl⟩
  · obtain ⟨reason, rfl⟩ := named noNull
    exact .inl ⟨reason, fails, along.grows⟩
  · exact .inr ⟨made, location, succeeds, along.grows, ready, rfl⟩

/-- Writing stops at the first artifact that cannot be written. -/
theorem writeAll_cons_of_error (rest : List Artifact) {written : Noted Path} {failure : Failure}
    (writes : artifact.write before = (after, written))
    (fails : written.outcome = .error failure) :
    (writeAll (artifact :: rest) before).1 = after ∧
      (writeAll (artifact :: rest) before).2.outcome = .error failure := by
  obtain ⟨events, outcome⟩ := written
  subst fails
  rw [writeAll, writes]
  exact ⟨rfl, rfl⟩

/-- Writing goes on behind an artifact that was written, and gives its path first. -/
theorem writeAll_cons_of_ok (rest : List Artifact) {written : Noted Path} {path : Path}
    (writes : artifact.write before = (after, written)) (succeeds : written.outcome = .ok path) :
    (writeAll (artifact :: rest) before).1 = (writeAll rest after).1 ∧
      (writeAll (artifact :: rest) before).2.outcome =
        (writeAll rest after).2.outcome.map (path :: ·) := by
  obtain ⟨events, outcome⟩ := written
  subst succeeds
  rw [writeAll, writes]
  refine ⟨rfl, ?_⟩
  rw [Noted.outcome_bind, Noted.outcome_noteAll, Checked.ok_bind, Noted.outcome_bind]
  rfl

end Artifact

/-- The artifacts of accepted settings never meet unless they have one path. -/
theorem Settings.neverMeet_of_ofFields {environment : Environment}
    {fields : List (String × Value)} {settings : Settings} {treePath indexPath : Path}
    (accepted : Settings.ofFields environment fields = .ok settings)
    (isTree : settings.treePath = .ok treePath)
    (isIndex : settings.searchIndexPath = .ok indexPath) (apart : treePath ≠ indexPath) :
    NeverMeet indexPath treePath ∧ NeverMeet treePath indexPath := by
  have promises := Settings.isAccepted_of_ofFields accepted
  obtain ⟨output, isOutput, -⟩ := Checked.bind_eq_ok.mp isTree
  have treeBelow := Settings.below_eq isOutput promises.treeFile
  have indexBelow := Settings.below_eq isOutput promises.searchIndexFile
  obtain rfl := Except.ok.inj (isTree.symm.trans treeBelow)
  obtain rfl := Except.ok.inj (isIndex.symm.trans indexBelow)
  have componentsDiffer : (Path.ofString settings.treeFile).components ≠
      (Path.ofString settings.searchIndexFile).components := by
    intro same
    rw [same] at apart
    exact apart rfl
  exact ⟨neverMeet_of_ne promises.searchIndexFile.noParents promises.treeFile.noParents
      (Ne.symm componentsDiffer),
    neverMeet_of_ne promises.treeFile.noParents promises.searchIndexFile.noParents
      componentsDiffer⟩

namespace Generation

variable {settings : Settings} {collection : Collection} {generation : Generation}
  {treePath indexPath : Path} {before after system : FileSystem}

/-- How a run over a collection ends that writes its search index to one path and its tree
to another. -/
inductive Ending (settings : Settings) (collection : Collection) (indexPath treePath : Path)
    (before after : FileSystem) : Checked (Generation × List Path) → Prop where
  /-- Both artifacts are new, all other files are as before, and the same run over again
  returns the same and changes nothing. -/
  | returned (generation : Generation) (indexPlace treePlace : Location)
      (isPrepared : (prepare settings collection).outcome = .ok generation)
      (toIndex : after.place indexPath = .ok indexPlace)
      (toTree : after.place treePath = .ok treePlace)
      (index : after.at? indexPlace = some (.file 0o644 (searchModule generation.index)))
      (tree : after.at? treePlace =
        some (.file 0o644 (treeScript generation.tree settings.treeVariable)))
      (others : ∀ location, location ≠ indexPlace → location ≠ treePlace →
        SameFile before after location)
      (returnsAgain : (run settings collection after).2.outcome =
        .ok (generation, [indexPath, treePath]))
      (sameAgain : Same after (run settings collection after).1) :
      Ending settings collection indexPath treePath before after
        (.ok (generation, [indexPath, treePath]))
  /-- The run failed, and every file is as before. -/
  | untouched (failure : Failure) (files : ∀ location, SameFile before after location) :
      Ending settings collection indexPath treePath before after (.error failure)
  /-- The tree could not be written. The search index is new, and every other file is as
  before, the tree of an earlier run among them. -/
  | halfway (generation : Generation) (indexPlace : Location) (reason : String)
      (isPrepared : (prepare settings collection).outcome = .ok generation)
      (toIndex : after.place indexPath = .ok indexPlace)
      (index : after.at? indexPlace = some (.file 0o644 (searchModule generation.index)))
      (others : ∀ location, location ≠ indexPlace → SameFile before after location)
      (oldTree : ∀ mode text, before.entry? treePath = some (.file mode text) →
        after.entry? treePath = some (.file mode text)) :
      Ending settings collection indexPath treePath before after
        (.error (.fault (.unwritable treePath reason)))

/-- Whenever a run changed some file the search index is the one that it built. -/
theorem Ending.index_is_new {result : Checked (Generation × List Path)}
    (ending : Ending settings collection indexPath treePath before after result)
    (changed : ∃ location, ¬ SameFile before after location) :
    ∃ generation, (prepare settings collection).outcome = .ok generation ∧
      after.entry? indexPath = some (.file 0o644 (searchModule generation.index)) := by
  obtain ⟨location, changed⟩ := changed
  cases ending with
  | returned generation indexPlace treePlace isPrepared toIndex toTree index tree others =>
      exact ⟨generation, isPrepared, (entry?_of_place toIndex).trans index⟩
  | untouched failure files => exact absurd (files location) changed
  | halfway generation indexPlace reason isPrepared toIndex index others oldTree =>
      exact ⟨generation, isPrepared, (entry?_of_place toIndex).trans index⟩

/-- What is prepared for writing are the two artifacts of the index and the tree. -/
theorem artifacts_of_prepare (isTree : settings.treePath = .ok treePath)
    (isIndex : settings.searchIndexPath = .ok indexPath)
    (isPrepared : (prepare settings collection).outcome = .ok generation) :
    generation.artifacts = [⟨indexPath, searchModule generation.index⟩,
        ⟨treePath, treeScript generation.tree settings.treeVariable⟩] ∧
      generation.isDry = settings.dryRun.isGiven := by
  obtain ⟨_, _, _, _, parts⟩ := exists_isMadeOf isPrepared
  obtain rfl := Except.ok.inj (isTree.symm.trans parts.isTree)
  obtain rfl := Except.ok.inj (isIndex.symm.trans parts.isIndex)
  have rendered := parts.rendered
  unfold render at rendered
  split at rendered
  · exact absurd rendered nofun
  · exact ⟨(Except.ok.inj rendered).symm, parts.isDry⟩

/-- A run that writes leaves behind what writing its artifacts does. -/
theorem run_of_prepared (isPrepared : (prepare settings collection).outcome = .ok generation)
    (isWet : generation.isDry = false) (system : FileSystem) :
    (run settings collection system).1 = (Artifact.writeAll generation.artifacts system).1 ∧
      (run settings collection system).2.outcome =
        (Artifact.writeAll generation.artifacts system).2.outcome.map (generation, ·) := by
  unfold run write Artifact.emit
  dsimp only
  rw [isPrepared]
  dsimp only
  rw [isWet, if_neg Bool.false_ne_true]
  refine ⟨rfl, ?_⟩
  rw [Noted.outcome_bind, Noted.outcome_noteAll, Checked.ok_bind, Noted.outcome_bind]
  rfl

section Writing

variable (isPrepared : (prepare settings collection).outcome = .ok generation)
include isPrepared

/-- Over a file system where both paths are ready a run sets both files and returns. -/
theorem run_of_isReady (isTree : settings.treePath = .ok treePath)
    (isIndex : settings.searchIndexPath = .ok indexPath)
    (isWet : settings.dryRun.isGiven = false) {made between : FileSystem}
    {indexPlace treePlace : Location}
    (indexReady : system.IsReady indexPath indexPlace)
    (isBetween : between =
      system.set indexPlace (.file artifactMode (searchModule generation.index)))
    (treeReady : between.IsReady treePath treePlace)
    (isMade : made = between.set treePlace
      (.file artifactMode (treeScript generation.tree settings.treeVariable))) :
    (run settings collection system).1 = made ∧
      (run settings collection system).2.outcome = .ok (generation, [indexPath, treePath]) := by
  obtain ⟨artifacts, isDry⟩ := artifacts_of_prepare isTree isIndex isPrepared
  have runs := run_of_prepared isPrepared (isDry.trans isWet) system
  rw [artifacts] at runs
  have writesIndex : (Artifact.mk indexPath (searchModule generation.index)).write system = _ :=
    Artifact.write_of_isReady indexReady
  have writesTree : (Artifact.mk treePath
      (treeScript generation.tree settings.treeVariable)).write between = _ :=
    Artifact.write_of_isReady treeReady
  subst isBetween isMade
  have first := Artifact.writeAll_cons_of_ok
    [⟨treePath, treeScript generation.tree settings.treeVariable⟩] writesIndex rfl
  have second := Artifact.writeAll_cons_of_ok [] writesTree rfl
  rw [second.1, second.2] at first
  rw [first.1, first.2] at runs
  exact runs

/-- A run ends halfway when its search index was set and then only directories were made. -/
theorem ending_halfway {made : FileSystem} {indexPlace : Location} {reason : String}
    (apart : NeverMeet treePath indexPath) (grows : Grows before made)
    (indexReady : made.IsReady indexPath indexPlace)
    (growsMore : Grows
      (made.set indexPlace (.file artifactMode (searchModule generation.index))) after) :
    Ending settings collection indexPath treePath before after
      (.error (.fault (.unwritable treePath reason))) := by
  obtain ⟨indexStaysReady, indexStands⟩ := indexReady.set (searchModule generation.index)
  have others : ∀ location, location ≠ indexPlace → SameFile before after location :=
    fun location elsewhere => (grows.sameFile location).trans
      ((sameFile_set_of_ne indexReady.isFree elsewhere).trans (growsMore.sameFile location))
  have keeps : KeepsDirectories before after :=
    (grows.keepsDirectories.trans (keepsDirectories_set indexReady.isFree)).trans
      growsMore.keepsDirectories
  refine .halfway generation indexPlace reason isPrepared
    (place_of_keepsDirectories growsMore.keepsDirectories indexStaysReady.leads)
    ((growsMore.sameFile indexPlace _ _).mpr indexStands) others ?_
  intro mode text stood
  obtain ⟨treePlace, leads, stands⟩ := entry?_eq_some_iff.mp stood
  have elsewhere : treePlace ≠ indexPlace :=
    apart before made treePlace indexPlace grows.keepsDirectories leads indexReady.leads
  exact entry?_eq_some_iff.mpr ⟨treePlace, place_of_keepsDirectories keeps leads,
    (others treePlace elsewhere mode text).mpr stands⟩

/-- A run returns when its search index was set and then its tree. Both paths are ready for
the next run, which sets both files to what they hold. -/
theorem ending_returned (isTree : settings.treePath = .ok treePath)
    (isIndex : settings.searchIndexPath = .ok indexPath)
    (isWet : settings.dryRun.isGiven = false) {made madeMore : FileSystem}
    {indexPlace treePlace : Location} (apart : NeverMeet indexPath treePath)
    (grows : Grows before made) (indexReady : made.IsReady indexPath indexPlace)
    (growsMore : Grows
      (made.set indexPlace (.file artifactMode (searchModule generation.index))) madeMore)
    (treeReady : madeMore.IsReady treePath treePlace)
    (isAfter : after = madeMore.set treePlace
      (.file artifactMode (treeScript generation.tree settings.treeVariable))) :
    Ending settings collection indexPath treePath before after
      (.ok (generation, [indexPath, treePath])) := by
  obtain ⟨indexStaysReady, indexStands⟩ := indexReady.set (searchModule generation.index)
  obtain ⟨treeStaysReady, treeStands⟩ :=
    treeReady.set (treeScript generation.tree settings.treeVariable)
  rw [← isAfter] at treeStaysReady treeStands
  have elsewhere : indexPlace ≠ treePlace :=
    apart _ _ _ _ growsMore.keepsDirectories indexStaysReady.leads treeReady.leads
  have setsTree {location : Location} (apart : location ≠ treePlace) :
      SameFile madeMore after location := by
    rw [isAfter]
    exact sameFile_set_of_ne treeReady.isFree apart
  have keeps : KeepsDirectories madeMore after := by
    rw [isAfter]
    exact keepsDirectories_set treeReady.isFree
  have indexStandsStill : after.at? indexPlace =
      some (.file artifactMode (searchModule generation.index)) :=
    ((growsMore.sameFile indexPlace).trans (setsTree elsewhere) _ _).mpr indexStands
  have indexReadyAfter := indexStaysReady.of_keepsDirectories
    (growsMore.keepsDirectories.trans keeps) (by rw [indexStandsStill]; exact nofun)
  have sameIndex := same_set_file indexStandsStill
  have treeStandsStill := (sameIndex treePlace).trans treeStands
  have treeReadyAfter := treeStaysReady.of_keepsDirectories sameIndex.keepsDirectories
    (by rw [treeStandsStill]; exact nofun)
  obtain ⟨leaves, returns⟩ := run_of_isReady isPrepared isTree isIndex isWet indexReadyAfter rfl
    treeReadyAfter rfl
  refine .returned generation indexPlace treePlace isPrepared indexReadyAfter.leads
    treeStaysReady.leads indexStandsStill treeStands ?_ returns ?_
  · intro location notIndex notTree
    exact (grows.sameFile location).trans ((sameFile_set_of_ne indexReady.isFree notIndex).trans
      ((growsMore.sameFile location).trans (setsTree notTree)))
  · rw [leaves]
    exact sameIndex.trans (same_set_file treeStandsStill)

/-- Where the paths of the artifacts never meet, a run that was prepared ends in one of
these ways. -/
theorem ending_of_prepared (isTree : settings.treePath = .ok treePath)
    (isIndex : settings.searchIndexPath = .ok indexPath)
    (isWet : settings.dryRun.isGiven = false) (indexNoNull : indexPath.hasNull = false)
    (treeNoNull : treePath.hasNull = false) (apart : NeverMeet indexPath treePath)
    (apartBackwards : NeverMeet treePath indexPath) (before : FileSystem) :
    Ending settings collection indexPath treePath before (run settings collection before).1
      (run settings collection before).2.outcome := by
  obtain ⟨artifacts, isDry⟩ := artifacts_of_prepare isTree isIndex isPrepared
  have runs := run_of_prepared isPrepared (isDry.trans isWet) before
  rw [artifacts] at runs
  rw [runs.1, runs.2]
  rcases writesIndex : (Artifact.mk indexPath (searchModule generation.index)).write before
    with ⟨withIndex, written⟩
  rcases Artifact.write_cases indexNoNull writesIndex with
    ⟨reason, fails, grows⟩ | ⟨made, indexPlace, succeeds, grows, indexReady, rfl⟩
  · -- The search index is not written, so the tree is not even tried.
    have ends := Artifact.writeAll_cons_of_error
      [⟨treePath, treeScript generation.tree settings.treeVariable⟩] writesIndex fails
    rw [ends.1, ends.2]
    exact .untouched _ grows.sameFile
  · have ends := Artifact.writeAll_cons_of_ok
      [⟨treePath, treeScript generation.tree settings.treeVariable⟩] writesIndex succeeds
    rw [ends.1, ends.2]
    rcases writesTree :
      (Artifact.mk treePath (treeScript generation.tree settings.treeVariable)).write
        (made.set indexPlace (.file artifactMode (searchModule generation.index)))
      with ⟨withBoth, written⟩
    rcases Artifact.write_cases treeNoNull writesTree with
      ⟨reason, fails, growsMore⟩ | ⟨madeMore, treePlace, succeedsToo, growsMore, treeReady, rfl⟩
    · have endsHere := Artifact.writeAll_cons_of_error [] writesTree fails
      rw [endsHere.1, endsHere.2]
      exact ending_halfway isPrepared apartBackwards grows indexReady growsMore
    · have endsHere := Artifact.writeAll_cons_of_ok [] writesTree succeedsToo
      rw [endsHere.1, endsHere.2]
      exact ending_returned isPrepared isTree isIndex isWet apart grows indexReady growsMore
        treeReady rfl

end Writing

/-- A run that writes, over any file system, ends with both artifacts new, with no file
touched, or with a new search index and a tree that could not be written. When it changes
any file, the search index is the one that it built. -/
theorem run_ends {environment : Environment} {fields : List (String × Value)}
    (accepted : Settings.ofFields environment fields = .ok settings)
    (isWet : settings.dryRun.isGiven = false) (isTree : settings.treePath = .ok treePath)
    (isIndex : settings.searchIndexPath = .ok indexPath) (apart : treePath ≠ indexPath)
    (treeNoNull : treePath.hasNull = false) (indexNoNull : indexPath.hasNull = false)
    (collection : Collection) (before : FileSystem) :
    Ending settings collection indexPath treePath before (run settings collection before).1
        (run settings collection before).2.outcome ∧
      ((∃ location, ¬ SameFile before (run settings collection before).1 location) →
        ∃ generation, (prepare settings collection).outcome = .ok generation ∧
          FileSystem.entry? (run settings collection before).1 indexPath =
            some (.file 0o644 (searchModule generation.index))) := by
  have ending : Ending settings collection indexPath treePath before
      (run settings collection before).1 (run settings collection before).2.outcome := by
    cases isPrepared : (prepare settings collection).outcome with
    | error failure =>
        unfold run
        dsimp only
        rw [isPrepared]
        exact .untouched failure (Grows.refl before).sameFile
    | ok generation =>
        obtain ⟨neverMeet, neverMeetBackwards⟩ :=
          Settings.neverMeet_of_ofFields accepted isTree isIndex apart
        exact ending_of_prepared isPrepared isTree isIndex isWet indexNoNull treeNoNull
          neverMeet neverMeetBackwards before
  exact ⟨ending, ending.index_is_new⟩

/-- A working directory where a file stands in place of the directory of the tree. -/
def blockedSystem : FileSystem :=
  ⟨[(["doc"], .directory), (["doc", "panel"], .file 0o600 "notes")]⟩

/-- With the default settings a run over the blocked directory fails and leaves its search
index behind, which is one of the ways to end. -/
theorem blocked_run_ends :
    ∃ settings treePath indexPath, Settings.ofFields [] [] = .ok settings ∧
      settings.dryRun.isGiven = false ∧ settings.treePath = .ok treePath ∧
      settings.searchIndexPath = .ok indexPath ∧ treePath ≠ indexPath ∧
      treePath.hasNull = false ∧ indexPath.hasNull = false ∧
      (run settings default blockedSystem).2.outcome.toOption.isNone = true ∧
      (FileSystem.entry? (run settings default blockedSystem).1 indexPath).isSome = true ∧
      Ending settings default indexPath treePath blockedSystem
        (run settings default blockedSystem).1 (run settings default blockedSystem).2.outcome := by
  obtain ⟨settings, treePath, indexPath, accepted, isWet, isTree, isIndex, apart, treeNoNull,
      indexNoNull, fails, leaves⟩ :
      ∃ settings treePath indexPath, Settings.ofFields [] [] = .ok settings ∧
        settings.dryRun.isGiven = false ∧ settings.treePath = .ok treePath ∧
        settings.searchIndexPath = .ok indexPath ∧ treePath ≠ indexPath ∧
        treePath.hasNull = false ∧ indexPath.hasNull = false ∧
        (run settings default blockedSystem).2.outcome.toOption.isNone = true ∧
        (FileSystem.entry? (run settings default blockedSystem).1 indexPath).isSome = true :=
    ⟨_, _, _, rfl, rfl, rfl, rfl, by decide, by decide, by decide, by decide +kernel,
      by decide +kernel⟩
  exact ⟨settings, treePath, indexPath, accepted, isWet, isTree, isIndex, apart, treeNoNull,
    indexNoNull, fails, leaves,
    (run_ends accepted isWet isTree isIndex apart treeNoNull indexNoNull default blockedSystem).1⟩

end Generation

end DocAtlas
