import DocAtlas.Proofs.FileSystem.Places
import Mathlib.Data.List.Infix

/-!
# Making directories

This module says what a file system is after a directory and those above it were made, or
were not. However that ends, the only things new are directories, and each of them stands
where a beginning of the path leads.
-/

namespace DocAtlas

/-- A part of a path without null character is without it. -/
theorem Path.hasNull_append_eq_false {root : Path.Root} {first second : List String}
    (noNull : (⟨root, first ++ second⟩ : Path).hasNull = false) :
    (⟨root, first⟩ : Path).hasNull = false ∧ (⟨root, second⟩ : Path).hasNull = false := by
  unfold Path.hasNull at noNull ⊢
  rw [List.any_append, Bool.or_eq_false_iff] at noNull
  exact noNull

/-- The parent of a path without null characters has none. -/
theorem Path.hasNull_parent {path : Path} (noNull : path.hasNull = false) :
    path.parent.hasNull = false := by
  unfold Path.hasNull at noNull ⊢
  rw [List.any_eq_false] at noNull ⊢
  exact fun component among => noNull component (List.dropLast_subset _ among)

namespace FileSystem

variable {before between after system : FileSystem} {path : Path} {location : Location}

/-- A place that a path leads to holds what the path does. -/
theorem entry?_of_place (leads : system.place path = .ok location) :
    system.entry? path = system.at? location := by
  unfold entry?
  rw [leads]

/-- An entry stands at a path when the path leads to a place and the entry stands there. -/
theorem entry?_eq_some_iff {entry : Entry} :
    system.entry? path = some entry ↔
      ∃ location, system.place path = .ok location ∧ system.at? location = some entry := by
  unfold entry?
  cases system.place path <;> simp

/-- A directory is still found when there are more of them. -/
theorem KeepsDirectories.entry? (keeps : KeepsDirectories before after)
    (isDirectory : before.entry? path = some .directory) :
    after.entry? path = some .directory := by
  obtain ⟨location, leads, stands⟩ := entry?_eq_some_iff.mp isDirectory
  exact entry?_eq_some_iff.mpr
    ⟨location, place_of_keepsDirectories keeps leads, keeps location stands⟩

/-- Where a path starts there is a directory. -/
theorem entry?_start (system : FileSystem) (root : Path.Root) :
    system.entry? ⟨root, []⟩ = some .directory := by
  cases root <;> rfl

/-! ### Growth along a path -/

/-- A place that a beginning of a path leads to. -/
def IsOnWay (system : FileSystem) (path : Path) (location : Location) : Prop :=
  ∃ upper, upper <+: path.components ∧ system.place ⟨path.root, upper⟩ = .ok location

/-- A place holds what it held, or it is on the way along a path and a directory is new
there. -/
def IsKept (before after : FileSystem) (path : Path) (location : Location) : Prop :=
  after.at? location = before.at? location ∨
    before.at? location = none ∧ after.at? location = some .directory ∧
      after.IsOnWay path location

/-- The second file system has more directories on the way along a path than the first, and
is else the same. -/
def GrowsAlong (before after : FileSystem) (path : Path) : Prop :=
  ∀ location, IsKept before after path location

/-- A place stays on the way along a path while directories are kept. -/
theorem IsOnWay.of_keepsDirectories (onWay : before.IsOnWay path location)
    (keeps : KeepsDirectories before after) : after.IsOnWay path location := by
  obtain ⟨upper, isBeginning, leads⟩ := onWay
  exact ⟨upper, isBeginning, place_of_keepsDirectories keeps leads⟩

/-- A file system grows along every path into itself. -/
theorem GrowsAlong.refl (system : FileSystem) (path : Path) : GrowsAlong system system path :=
  fun _ => .inl rfl

/-- What grows along a path grows. -/
theorem GrowsAlong.grows (along : GrowsAlong before after path) : Grows before after := by
  intro location
  rcases along location with same | ⟨isFree, made, -⟩
  · exact .inl same
  · exact .inr ⟨isFree, made⟩

/-- Growing along a path twice is growing along it. -/
theorem GrowsAlong.trans (first : GrowsAlong before between path)
    (second : GrowsAlong between after path) : GrowsAlong before after path := by
  intro location
  rcases second location with same | ⟨isFree, made, onWay⟩
  · rcases first location with sameBefore | ⟨wasFree, wasMade, onWay⟩
    · exact .inl (same.trans sameBefore)
    · exact .inr ⟨wasFree, same.trans wasMade,
        onWay.of_keepsDirectories second.grows.keepsDirectories⟩
  · rcases first location with sameBefore | ⟨wasFree, -, -⟩
    · exact .inr ⟨sameBefore.symm.trans isFree, made, onWay⟩
    · exact .inr ⟨wasFree, made, onWay⟩

/-- What is on the way along a path is on the way along a longer one. -/
theorem GrowsAlong.longer {root : Path.Root} {upper more : List String}
    (along : GrowsAlong before after ⟨root, upper⟩) :
    GrowsAlong before after ⟨root, upper ++ more⟩ := by
  intro location
  rcases along location with same | ⟨isFree, made, first, isBeginning, leads⟩
  · exact .inl same
  · exact .inr ⟨isFree, made, first, isBeginning.trans (List.prefix_append _ _), leads⟩

/-- Making the directory that a path leads to is growth along the path. -/
theorem growsAlong_set_directory (leads : system.place path = .ok location)
    (isFree : system.at? location = none) :
    GrowsAlong system (system.set location .directory) path := by
  have grows := grows_set_directory isFree
  intro other
  have holds : (system.set location .directory).at? other =
      if other = location then some .directory else system.at? other :=
    at?_set_of_free (by rw [isFree]; exact nofun) other
  by_cases here : other = location
  · subst here
    rw [if_pos rfl] at holds
    exact .inr ⟨isFree, holds, path.components, List.prefix_rfl,
      place_of_keepsDirectories grows.keepsDirectories leads⟩
  · rw [if_neg here] at holds
    exact .inl holds

/-! ### Null characters -/

/-- A step along a path does not fail for a null character. -/
theorem step_ne_null {component : String} :
    system.step location component ≠ .error .nullInPath := by
  unfold step
  split
  · exact nofun
  · exact nofun
  · split
    · exact nofun
    · split <;> exact nofun

/-- Following the components of a path does not fail for a null character. -/
theorem locate_ne_null {components : List String} :
    system.locate location components ≠ .error .nullInPath := by
  induction components generalizing location with
  | nil => exact nofun
  | cons component rest inductionHypothesis =>
      rw [locate]
      split
      · exact inductionHypothesis
      · rename_i trouble fails
        exact fun same => step_ne_null (fails.trans same)

/-- A path without a null character is looked for. -/
theorem place_ne_null (noNull : path.hasNull = false) :
    system.place path ≠ .error .nullInPath := by
  unfold place
  rw [if_neg (by rw [noNull]; exact Bool.false_ne_true)]
  split
  · exact nofun
  · exact locate_ne_null

/-- Making a directory at a path without null characters does not fail for one. -/
theorem makeDirectory_ne_null (noNull : path.hasNull = false) :
    system.makeDirectory path ≠ .error .nullInPath := by
  unfold makeDirectory
  split
  · rename_i trouble misses
    exact fun same => place_ne_null noNull (misses.trans (congrArg _ (Except.error.inj same)))
  · split <;> exact nofun

/-! ### Making directories -/

/-- A directory is made at a path that leads to a free place, and nothing else changes. -/
theorem makeDirectory_eq_ok_iff :
    system.makeDirectory path = .ok after ↔
      ∃ location, system.place path = .ok location ∧ system.at? location = none ∧
        after = system.set location .directory := by
  unfold makeDirectory
  cases system.place path with
  | error trouble => simp
  | ok location =>
      cases free : system.at? location with
      | none => simp [free, eq_comm]
      | some entry => simp [free]

/-- A directory that was made is found. -/
theorem makeDirectory_spec (makes : system.makeDirectory path = .ok after) :
    GrowsAlong system after path ∧ after.entry? path = some .directory := by
  obtain ⟨location, leads, isFree, rfl⟩ := makeDirectory_eq_ok_iff.mp makes
  have along := growsAlong_set_directory leads isFree
  have leadsAfter := place_of_keepsDirectories along.grows.keepsDirectories leads
  refine ⟨along, ?_⟩
  rw [entry?_of_place leadsAfter, at?_set_of_free (by rw [isFree]; exact nofun), if_pos rfl]

/-- What stands after an attempt to make a directory and those above it. -/
structure HasMade (before after : FileSystem) (path : Path) (result : Except Trouble Unit) :
    Prop where
  along : GrowsAlong before after path
  stands : result = .ok () → after.entry? path = some .directory
  noNull : path.hasNull = false → result ≠ .error .nullInPath

/-- An attempt that does not make the directory itself asks whether it is there already. -/
theorem HasMade.of_settled {trouble : Trouble}
    {result : Except Trouble Unit} (along : GrowsAlong before between path)
    (noNull : path.hasNull = false → trouble ≠ .nullInPath)
    (settles : (between, if between.entry? path = some .directory then Except.ok ()
      else .error trouble) = (after, result)) : HasMade before after path result := by
  obtain ⟨rfl, rfl⟩ := Prod.mk.inj settles
  by_cases isDirectory : between.entry? path = some .directory
  · rw [if_pos isDirectory]
    exact ⟨along, fun _ => isDirectory, fun _ => nofun⟩
  · rw [if_neg isDirectory]
    exact ⟨along, nofun, fun spelled same => noNull spelled (Except.error.inj same)⟩

/-- Making directories is growth along their path however it ends, and without trouble all of
them are there. -/
theorem makeDirectories_spec {root : Path.Root} {reversed : List String}
    {result : Except Trouble Unit}
    (makes : makeDirectories root reversed system = (after, result)) :
    HasMade system after ⟨root, reversed.reverse⟩ result := by
  induction reversed generalizing system after result with
  | nil =>
      cases makes
      exact ⟨.refl _ _, fun _ => entry?_start _ root, fun _ => nofun⟩
  | cons last rest inductionHypothesis =>
      rw [makeDirectories] at makes
      dsimp only at makes
      rw [List.reverse_cons] at makes ⊢
      split at makes
      · rename_i made isMade
        cases makes
        have spec := makeDirectory_spec isMade
        exact ⟨spec.1, fun _ => spec.2, fun _ => nofun⟩
      · split at makes
        · rename_i between trouble above
          cases makes
          have spec := inductionHypothesis above
          exact ⟨spec.along.longer, nofun,
            fun noNull => spec.noNull (Path.hasNull_append_eq_false noNull).1⟩
        · rename_i between above
          have along : GrowsAlong system between ⟨root, rest.reverse ++ [last]⟩ :=
            (inductionHypothesis above).along.longer
          split at makes
          · rename_i made isMade
            cases makes
            have spec := makeDirectory_spec isMade
            exact ⟨along.trans spec.1, fun _ => spec.2, fun _ => nofun⟩
          · rename_i trouble fails
            exact .of_settled along (fun noNull same =>
              makeDirectory_ne_null noNull (fails.trans (congrArg _ same))) makes
      · rename_i trouble _ fails
        exact .of_settled (.refl _ _) (fun noNull same =>
          makeDirectory_ne_null noNull (fails.trans (congrArg _ same))) makes

/-- Nothing is made when all directories are there. -/
theorem makeDirectories_of_stands {root : Path.Root} {reversed : List String}
    (stands : system.entry? ⟨root, reversed.reverse⟩ = some .directory) :
    makeDirectories root reversed system = (system, .ok ()) := by
  cases reversed with
  | nil => rfl
  | cons last rest =>
      obtain ⟨location, leads, isDirectory⟩ := entry?_eq_some_iff.mp stands
      have stood : system.makeDirectory ⟨root, (last :: rest).reverse⟩ =
          .error .alreadyExists := by
        unfold makeDirectory
        rw [leads]
        dsimp only
        rw [isDirectory]
      rw [makeDirectories]
      dsimp only
      rw [stood]
      dsimp only
      rw [if_pos stands]

end FileSystem

end DocAtlas
