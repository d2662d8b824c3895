import DocAtlas.Artifact
import DocAtlas.Proofs.FileSystem.Replacement

/-!
# Writing an artifact

This module says what one write does to the whole file system, whatever marks the temporary
files have. Either the target is new and complete, or no file is touched; beyond that only
directories above the target are new.
-/

namespace DocAtlas.Artifact

open FileSystem

variable {before after system : FileSystem} {artifact : Artifact} {location : Location}

/-- An artifact is written at a path that is ready once the directories above it are made, and
else nothing but directories above it is made. Trouble with a path that can be looked for is
reported with the path. -/
theorem writeWith_cases {choose : FileSystem → Path → String} {written : Noted Path}
    (writes : artifact.writeWith choose before = (after, written)) :
    (∃ failure, written.outcome = .error failure ∧ GrowsAlong before after artifact.path.parent ∧
        (artifact.path.hasNull = false →
          ∃ reason, failure = .fault (.unwritable artifact.path reason))) ∨
      ∃ made location, written.outcome = .ok artifact.path ∧
        GrowsAlong before made artifact.path.parent ∧ made.IsReady artifact.path location ∧
        after = made.set location (.file artifactMode artifact.content) := by
  unfold writeWith at writes
  rcases replaces : before.replaceFileWith choose artifact.path artifact.content with
    ⟨now, result⟩
  rw [replaces] at writes
  rcases replaceFileWith_cases replaces with
    ⟨trouble, rfl, along, notNull⟩ | ⟨made, location, rfl, along, ready, rfl⟩
  · left
    cases trouble with
    | nullInPath =>
        cases writes
        exact ⟨_, rfl, along, fun noNull => absurd rfl (notNull noNull)⟩
    | _ =>
        cases writes
        exact ⟨_, rfl, along, fun _ => ⟨_, rfl⟩⟩
  · cases writes
    exact .inr ⟨made, location, rfl, along, ready, rfl⟩

/-- At a ready path an artifact is written. -/
theorem write_of_isReady (ready : system.IsReady artifact.path location) :
    artifact.write system =
      (system.set location (.file artifactMode artifact.content),
        ⟨[.wrote artifact.path artifact.content.utf8ByteSize], .ok artifact.path⟩) := by
  have replaces := ready.replaceFile_eq artifact.content
  unfold replaceFile at replaces
  unfold write writeWith
  rw [replaces]

/-- What one write makes of a file system, by how it ends. -/
inductive Written (artifact : Artifact) (before after : FileSystem) : Checked Path → Prop where
  /-- The target, which is no directory, holds the whole content with the mode of an artifact.
  Every other place holds what it did, or a directory above the target is new there. -/
  | replaced (target : Location) (leads : after.place artifact.path = .ok target)
      (noDirectory : before.at? target ≠ some .directory)
      (stands : after.at? target = some (.file 0o644 artifact.content))
      (others : ∀ location, location ≠ target →
        IsKept before after artifact.path.parent location) :
      Written artifact before after (.ok artifact.path)
  /-- Every place holds what it did, the target too, or a directory above the target is new
  there. The failure names the path, unless that has a null character. -/
  | refused (failure : Failure)
      (named : artifact.path.hasNull = false →
        ∃ reason, failure = .fault (.unwritable artifact.path reason))
      (everywhere : ∀ location, IsKept before after artifact.path.parent location) :
      Written artifact before after (.error failure)

/-- A file that is set where no directory is changes no other place. -/
theorem isKept_set_of_ne {made : FileSystem} {path : Path} {entry : Entry} {other : Location}
    (along : GrowsAlong before made path) (isFree : made.at? location ≠ some .directory)
    (apart : other ≠ location) : IsKept before (made.set location entry) path other := by
  have same : (made.set location entry).at? other = made.at? other := by
    rw [at?_set_of_free isFree, if_neg apart]
  rcases along other with kept | ⟨wasFree, isMade, onWay⟩
  · exact .inl (same.trans kept)
  · exact .inr ⟨wasFree, same.trans isMade,
      onWay.of_keepsDirectories (keepsDirectories_set isFree)⟩

/-- A temporary file of another run is passed over and stays. -/
example :
    let system : FileSystem := ⟨[(["a", ".t.js.00000000.tmp"], .file 0o600 "of another run"),
      (["a"], .directory)]⟩
    (Artifact.write ⟨Path.ofString "a/t.js", "new"⟩ system).1.entries =
      (["a", "t.js"], .file 0o644 "new") :: system.entries := by
  decide +kernel

end DocAtlas.Artifact
