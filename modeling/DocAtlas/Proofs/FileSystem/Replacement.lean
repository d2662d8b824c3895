import DocAtlas.Proofs.FileSystem.Directories
import Mathlib.Data.List.Nodup
import Mathlib.Data.List.Perm.Subperm

/-!
# Replacing a file

This module says what a file system is after a file was replaced, or was not. A temporary
file is made, filled, and moved to the path or taken away again, so nothing is left of it
either way. A trouble leaves directories behind and nothing else. Success leaves the path
ready to be written again, and then nothing is made but the file.
-/

namespace DocAtlas.FileSystem

variable {before after system : FileSystem} {path : Path} {location temporary : Location}
  {text mark : String}

/-- A path is ready for a file at a place when nothing has to be made for it. -/
structure IsReady (system : FileSystem) (path : Path) (location : Location) : Prop where
  parent : system.entry? path.parent = some .directory
  noNull : path.hasNull = false
  hasRoom : leavesNoRoom path = false
  isNamed : (path.components.isEmpty || path.name == "..") = false
  leads : system.place path = .ok location
  isFree : system.at? location ≠ some .directory

/-- A path stays ready as long as no directory is lost or put in its place. -/
theorem IsReady.of_keepsDirectories (ready : before.IsReady path location)
    (keeps : KeepsDirectories before after) (isFree : after.at? location ≠ some .directory) :
    after.IsReady path location where
  parent := keeps.entry? ready.parent
  noNull := ready.noNull
  hasRoom := ready.hasRoom
  isNamed := ready.isNamed
  leads := place_of_keepsDirectories keeps ready.leads
  isFree := isFree

/-- A path stays ready, and leads to its file, when the file is set. -/
theorem IsReady.set (ready : system.IsReady path location) (text : String) :
    (system.set location (.file artifactMode text)).IsReady path location ∧
      (system.set location (.file artifactMode text)).at? location =
        some (.file artifactMode text) := by
  have stands : (system.set location (.file artifactMode text)).at? location =
      some (.file artifactMode text) := by
    rw [at?_set_of_free ready.isFree, if_pos rfl]
  refine ⟨ready.of_keepsDirectories (keepsDirectories_set ready.isFree) ?_, stands⟩
  rw [stands]
  exact nofun

/-! ### The life of a temporary file -/

/-- Nothing is taken away where nothing stands. -/
theorem remove_of_free (isFree : system.at? location = none) : system.remove location = system := by
  have missing : system.entries.find? (fun entry => entry.1 == location) = none := by
    unfold at? at isFree
    split at isFree
    · exact absurd isFree nofun
    · exact Option.map_eq_none_iff.mp isFree
  rw [List.find?_eq_none] at missing
  refine congrArg FileSystem.mk (List.filter_eq_self.mpr fun entry isEntry => ?_)
  simpa using missing entry isEntry

/-- Removing an entry takes away what was set in its place. -/
theorem remove_set (system : FileSystem) (location : Location) (entry : Entry) :
    (system.set location entry).remove location = system.remove location := by
  simp [set, remove]

/-- The second of two entries at a place is the one that stays. -/
theorem set_set (system : FileSystem) (location : Location) (first second : Entry) :
    (system.set location first).set location second = system.set location second := by
  simp [set]

/-- A file that was set at a free place is taken away without a trace. -/
theorem remove_set_of_free {entry : Entry} (isFree : system.at? location = none) :
    (system.set location entry).remove location = system := by
  rw [remove_set, remove_of_free isFree]

/-- A temporary file is made next to its target, at a free place and with room for its name, and
nothing else changes. -/
theorem makeTemporary_eq_ok_iff :
    system.makeTemporary path mark = .ok (after, temporary) ↔
      path.hasNull = false ∧ leavesNoRoom path = false ∧
        ∃ directory, system.place path.parent = .ok directory ∧
          temporary = temporaryPlace directory path mark ∧ system.at? temporary = none ∧
          after = system.set temporary (.file temporaryMode "") := by
  unfold makeTemporary
  by_cases isNull : path.hasNull = true
  · simp [isNull]
  by_cases noRoom : leavesNoRoom path = true
  · simp [isNull, noRoom]
  cases system.place path.parent with
  | error trouble => simp [isNull, noRoom]
  | ok directory =>
      rw [if_neg isNull, if_neg noRoom]
      dsimp only
      constructor
      · intro makes
        split at makes
        · exact absurd makes nofun
        · rename_i isFree
          obtain ⟨rfl, rfl⟩ := Prod.mk.inj (Except.ok.inj makes)
          exact ⟨Bool.eq_false_iff.mpr isNull, Bool.eq_false_iff.mpr noRoom, directory, rfl, rfl,
            isFree, rfl⟩
      · rintro ⟨-, -, other, same, rfl, isFree, rfl⟩
        obtain rfl := Except.ok.inj same
        rw [isFree]

/-- A temporary file for a path without null characters does not fail for one. -/
theorem makeTemporary_ne_null (noNull : path.hasNull = false) :
    system.makeTemporary path mark ≠ .error .nullInPath := by
  unfold makeTemporary
  rw [if_neg (by rw [noNull]; exact Bool.false_ne_true)]
  split
  · exact nofun
  · split
    · rename_i trouble misses
      exact fun same =>
        place_ne_null (Path.hasNull_parent noNull)
          (misses.trans (congrArg _ (Except.error.inj same)))
    · dsimp only
      split <;> exact nofun

section Filled

variable (isFree : system.at? temporary = none)
include isFree

/-- What is set at a temporary place stands there. -/
theorem at?_set_temporary (entry : Entry) :
    (system.set temporary entry).at? temporary = some entry := by
  rw [at?_set_of_free (by rw [isFree]; exact nofun), if_pos rfl]

/-- A temporary file that is filled and given the mode of an artifact is an artifact. -/
theorem filled_eq (text : String) :
    ((system.set temporary (.file temporaryMode "")).fill temporary text).changeMode temporary
      artifactMode = system.set temporary (.file artifactMode text) := by
  unfold fill
  rw [at?_set_temporary isFree]
  dsimp only
  rw [set_set]
  unfold changeMode
  rw [at?_set_temporary isFree]
  dsimp only
  rw [set_set]

/-- A temporary file is not in the way of a path. -/
theorem place_set_temporary_iff {mode : Nat} :
    (system.set temporary (.file mode text)).place path = .ok location ↔
      system.place path = .ok location := by
  have keepsBack : KeepsDirectories (system.set temporary (.file mode text)) system := by
    intro other isDirectory
    rw [at?_set_of_free (by rw [isFree]; exact nofun)] at isDirectory
    split at isDirectory
    · exact absurd isDirectory nofun
    · exact isDirectory
  exact ⟨place_of_keepsDirectories keepsBack, place_of_keepsDirectories
    (keepsDirectories_set (by rw [isFree]; exact nofun))⟩

/-- Moving a temporary file leaves the file where the path leads and nothing where it was. -/
theorem moveFile_set_temporary_iff {mode : Nat} :
    (system.set temporary (.file mode text)).moveFile temporary path = .ok after ↔
      (path.components.isEmpty || path.name == "..") = false ∧
        ∃ target, system.place path = .ok target ∧ system.at? target ≠ some .directory ∧
          after = system.set target (.file mode text) := by
  have stillDirectory (target : Location) :
      (system.set temporary (.file mode text)).at? target = some .directory ↔
        system.at? target = some .directory := by
    rw [at?_set_of_free (by rw [isFree]; exact nofun)]
    by_cases here : target = temporary
    · simp [here, isFree]
    · simp [here]
  unfold moveFile
  by_cases unnamed : (path.components.isEmpty || path.name == "..") = true
  · simp [unnamed]
  rw [if_neg unnamed]
  have named := Bool.eq_false_iff.mpr unnamed
  cases leads : (system.set temporary (.file mode text)).place path with
  | error trouble =>
      refine ⟨nofun, ?_⟩
      rintro ⟨-, target, leadsBefore, -⟩
      rw [(place_set_temporary_iff isFree).mpr leadsBefore] at leads
      exact absurd leads nofun
  | ok target =>
      have leadsBefore := (place_set_temporary_iff isFree).mp leads
      dsimp only
      rw [at?_set_temporary isFree, remove_set_of_free isFree]
      by_cases isDirectory : system.at? target = some .directory
      · rw [if_pos ((stillDirectory target).mpr isDirectory)]
        refine ⟨nofun, ?_⟩
        rintro ⟨-, other, leadsThere, noDirectory, -⟩
        obtain rfl := Except.ok.inj (leadsBefore.symm.trans leadsThere)
        exact absurd isDirectory noDirectory
      · rw [if_neg (mt (stillDirectory target).mp isDirectory)]
        constructor
        · intro moved
          exact ⟨named, target, leadsBefore, isDirectory, (Except.ok.inj moved).symm⟩
        · rintro ⟨-, other, leadsThere, -, rfl⟩
          obtain rfl := Except.ok.inj (leadsBefore.symm.trans leadsThere)
          rfl

end Filled

/-- Moving a file to a path without null characters does not fail for one. -/
theorem moveFile_ne_null (noNull : path.hasNull = false) :
    system.moveFile location path ≠ .error .nullInPath := by
  unfold moveFile
  split
  · exact nofun
  · split
    · rename_i trouble misses
      exact fun same => place_ne_null noNull (misses.trans (congrArg _ (Except.error.inj same)))
    · split
      · exact nofun
      · split <;> exact nofun

/-! ### Replacing -/

/-- In a directory that is there a file is replaced at a path that is ready for it, and else
nothing is changed: no temporary file is left. -/
theorem replaceBeside_cases {result : Except Trouble Unit}
    (parent : system.entry? path.parent = some .directory)
    (replaces : system.replaceBeside path text mark = (after, result)) :
    (∃ trouble, result = .error trouble ∧ after = system ∧
        (path.hasNull = false → trouble ≠ .nullInPath)) ∨
      ∃ target, result = .ok () ∧ system.IsReady path target ∧
        after = system.set target (.file artifactMode text) := by
  unfold replaceBeside at replaces
  split at replaces
  · rename_i trouble fails
    cases replaces
    exact .inl ⟨trouble, rfl, rfl, fun noNull same => makeTemporary_ne_null noNull (same ▸ fails)⟩
  · rename_i made temporary makes
    obtain ⟨noNull, hasRoom, directory, -, -, isFree, rfl⟩ := makeTemporary_eq_ok_iff.mp makes
    dsimp only at replaces
    rw [filled_eq isFree] at replaces
    split at replaces
    · rename_i moved moves
      cases replaces
      obtain ⟨isNamed, target, leads, noDirectory, rfl⟩ :=
        (moveFile_set_temporary_iff isFree).mp moves
      exact .inr ⟨target, rfl, ⟨parent, noNull, hasRoom, isNamed, leads, noDirectory⟩, rfl⟩
    · rename_i trouble fails
      cases replaces
      exact .inl ⟨trouble, rfl, remove_set_of_free isFree,
        fun noNull same => moveFile_ne_null noNull (same ▸ fails)⟩

/-- A file is replaced at a path that is ready once the directories above it are made, and
else nothing but directories above it is made, whatever marks are chosen. -/
theorem replaceFileWith_cases {choose : FileSystem → Path → String}
    {result : Except Trouble Unit}
    (replaces : system.replaceFileWith choose path text = (after, result)) :
    (∃ trouble, result = .error trouble ∧ GrowsAlong system after path.parent ∧
        (path.hasNull = false → trouble ≠ .nullInPath)) ∨
      ∃ made location, result = .ok () ∧ GrowsAlong system made path.parent ∧
        made.IsReady path location ∧ after = made.set location (.file artifactMode text) := by
  unfold replaceFileWith at replaces
  split at replaces
  · rename_i made trouble above
    cases replaces
    have spec := makeDirectories_spec above
    rw [List.reverse_reverse] at spec
    exact .inl ⟨trouble, rfl, spec.along,
      fun noNull same => spec.noNull (Path.hasNull_parent noNull) (by rw [same])⟩
  · rename_i made above
    have spec := makeDirectories_spec above
    rw [List.reverse_reverse] at spec
    rcases replaceBeside_cases (spec.stands rfl) replaces with
      ⟨trouble, rfl, rfl, notNull⟩ | ⟨location, rfl, ready, rfl⟩
    · exact .inl ⟨trouble, rfl, spec.along, notNull⟩
    · exact .inr ⟨made, location, rfl, spec.along, ready, rfl⟩

/-! ### Free marks -/

/-- Marks of different numbers are different. -/
theorem markOf_injective : Function.Injective markOf := by
  intro first second same
  have value (number : Nat) : Nat.ofDigitChars 10 (markOf number).toList 0 = number := by
    simp [markOf, Nat.ofDigitChars_append, Nat.ofDigitChars_replicate_zero,
      Nat.ofDigitChars_toDigits]
  rw [← value first, same, value second]

/-- Marks tell the temporary places for a path apart. -/
theorem temporaryPlace_injective (directory : Location) (path : Path) :
    Function.Injective (temporaryPlace directory path) := by
  intro first second same
  have sameName := List.singleton_inj.mp (List.append_cancel_left same)
  simpa using sameName

/-- The name of a temporary file is longer than that of any directory that is always there. -/
theorem isAnchor_temporaryPlace (directory : Location) :
    isAnchor (temporaryPlace directory path mark) = false := by
  have differs (short : String) (isShort : short.utf8ByteSize ≤ 2) :
      "." ++ path.name ++ "." ++ mark ++ ".tmp" ≠ short := by
    intro same
    have sameSize := congrArg String.utf8ByteSize same
    have point : ".".utf8ByteSize = 1 := rfl
    have suffix : ".tmp".utf8ByteSize = 4 := rfl
    simp only [String.utf8ByteSize_append, point, suffix] at sameSize
    omega
  unfold isAnchor temporaryPlace root
  rw [Bool.or_eq_false_iff]
  constructor
  · rw [beq_eq_false_iff_ne]
    intro same
    have sameLast := congrArg List.getLast? same
    rw [List.getLast?_concat] at sameLast
    exact differs "/" (by decide) (Option.some.inj sameLast)
  · rw [List.all_append, Bool.and_eq_false_iff]
    right
    simpa using differs ".." (by decide)

/-- A place that is no anchor and where something stands is one of the places listed. -/
theorem mem_of_at?_ne_none {entry : Entry} (isPlace : isAnchor location = false)
    (stands : system.at? location = some entry) : location ∈ system.entries.map (·.1) := by
  unfold at? at stands
  rw [isPlace, if_neg Bool.false_ne_true] at stands
  obtain ⟨found, isFound, -⟩ := Option.map_eq_some_iff.mp stands
  have same : found.1 = location := by simpa using List.find?_some isFound
  exact same ▸ List.mem_map_of_mem (List.mem_of_find?_eq_some isFound)

/-- Of one number more than there are entries some has a mark whose place is free. -/
theorem exists_isFreeMark (system : FileSystem) (path : Path) :
    ∃ number ∈ List.range (system.entries.length + 1), system.isFreeMark path number = true := by
  by_contra none
  simp only [not_exists, not_and, Bool.not_eq_true] at none
  cases leads : system.place path.parent with
  | error trouble =>
      have isFree := none 0 (by simp)
      simp [isFreeMark, leads] at isFree
  | ok directory =>
      -- Otherwise the places of all these marks are taken, by different entries.
      have taken : ((List.range (system.entries.length + 1)).map fun number =>
          temporaryPlace directory path (markOf number)) ⊆ system.entries.map (·.1) := by
        intro place isPlace
        obtain ⟨number, isNumber, rfl⟩ := List.mem_map.mp isPlace
        have isTaken := none number isNumber
        unfold isFreeMark at isTaken
        rw [leads] at isTaken
        obtain ⟨entry, stands⟩ := Option.isSome_iff_exists.mp (by simpa using isTaken)
        exact mem_of_at?_ne_none (isAnchor_temporaryPlace directory) stands
      have distinct := List.Nodup.map
        ((temporaryPlace_injective directory path).comp markOf_injective)
        (List.nodup_range (n := system.entries.length + 1))
      have fits := (distinct.subperm taken).length_le
      rw [List.length_map, List.length_map, List.length_range] at fits
      omega

/-- The mark that is chosen makes a temporary file at a place that is free. -/
theorem at?_freeMark {directory : Location} (leads : system.place path.parent = .ok directory) :
    system.at? (temporaryPlace directory path (freeMark system path)) = none := by
  obtain ⟨number, isNumber, isFree⟩ := exists_isFreeMark system path
  unfold freeMark
  cases first : (List.range (system.entries.length + 1)).find? (system.isFreeMark path) with
  | none => exact absurd isFree (List.find?_eq_none.mp first number isNumber)
  | some chosen =>
      have isFree := List.find?_some first
      unfold isFreeMark at isFree
      rw [leads] at isFree
      exact Option.isNone_iff_eq_none.mp isFree

/-- At a ready path only the file is replaced. -/
theorem IsReady.replaceFile_eq (ready : system.IsReady path location) (text : String) :
    system.replaceFile path text = (system.set location (.file artifactMode text), .ok ()) := by
  have above : makeDirectories path.root path.parent.components.reverse system =
      (system, .ok ()) := by
    apply makeDirectories_of_stands
    rw [List.reverse_reverse]
    exact ready.parent
  obtain ⟨directory, leads, -⟩ := entry?_eq_some_iff.mp ready.parent
  have isFree := at?_freeMark leads
  have makes := makeTemporary_eq_ok_iff.mpr
    ⟨ready.noNull, ready.hasRoom, directory, leads, rfl, isFree, rfl⟩
  have moves := (moveFile_set_temporary_iff isFree).mpr
    ⟨ready.isNamed, location, ready.leads, ready.isFree,
      @rfl _ (system.set location (.file artifactMode text))⟩
  unfold replaceFile replaceFileWith
  rw [above]
  dsimp only
  unfold replaceBeside
  rw [makes]
  dsimp only
  rw [filled_eq isFree, moves]

end DocAtlas.FileSystem
