import DocAtlas.FileSystem
import Mathlib.Logic.Basic

/-!
# Places of a file system

This module follows paths through file systems that grow. Making directories takes
nothing away, so a path that leads somewhere still leads there afterwards, and the
places of two paths below one directory can be compared before and after.
-/

namespace DocAtlas.FileSystem

variable {before between after system : FileSystem} {location other : Location}

/-- Every place holds in both file systems the same. -/
def Same (before after : FileSystem) : Prop :=
  ∀ location, after.at? location = before.at? location

/-- Every directory of the first file system is one of the second. -/
def KeepsDirectories (before after : FileSystem) : Prop :=
  ∀ location, before.at? location = some .directory → after.at? location = some .directory

/-- The second file system has more directories than the first, and is else the same. -/
def Grows (before after : FileSystem) : Prop :=
  ∀ location, after.at? location = before.at? location ∨
    before.at? location = none ∧ after.at? location = some .directory

/-- A place holds in both file systems the same file, or no file in either. -/
def SameFile (before after : FileSystem) (location : Location) : Prop :=
  ∀ mode text, after.at? location = some (.file mode text) ↔
    before.at? location = some (.file mode text)

/-- Directories that are kept twice are kept. -/
theorem KeepsDirectories.trans (first : KeepsDirectories before between)
    (second : KeepsDirectories between after) : KeepsDirectories before after :=
  fun location isDirectory => second location (first location isDirectory)

/-- A file system grows into itself. -/
theorem Grows.refl (system : FileSystem) : Grows system system := fun _ => .inl rfl

/-- A file system that grows keeps its directories. -/
theorem Grows.keepsDirectories (grows : Grows before after) : KeepsDirectories before after := by
  intro location isDirectory
  rcases grows location with same | ⟨-, made⟩
  · exact same.trans isDirectory
  · exact made

/-- A file system that grows by directories has the same files. -/
theorem Grows.sameFile (grows : Grows before after) (location : Location) :
    SameFile before after location := by
  intro mode text
  rcases grows location with same | ⟨isFree, made⟩
  · rw [same]
  · rw [isFree, made]
    simp

/-- File systems that are the same have the same directories. -/
theorem Same.keepsDirectories (same : Same before after) : KeepsDirectories before after :=
  fun location isDirectory => (same location).trans isDirectory

/-- Being the same carries over. -/
theorem Same.trans (first : Same before between) (second : Same between after) :
    Same before after :=
  fun location => (second location).trans (first location)

/-- Having the same file at a place carries over. -/
theorem SameFile.trans (first : SameFile before between location)
    (second : SameFile between after location) : SameFile before after location :=
  fun mode text => (second mode text).trans (first mode text)

/-- An entry that is set where no directory is changes its own place only. -/
theorem at?_set_of_free {entry : Entry} (isFree : system.at? location ≠ some .directory)
    (other : Location) :
    (system.set location entry).at? other =
      if other = location then some entry else system.at? other := by
  cases isPlace : isAnchor other with
  | false => exact at?_set system location other entry isPlace
  | true =>
      have apart : other ≠ location := by
        rintro rfl
        exact isFree (if_pos isPlace)
      rw [if_neg apart]
      unfold at?
      rw [if_pos isPlace, if_pos isPlace]

/-- Making a directory where nothing stands is growth. -/
theorem grows_set_directory (isFree : system.at? location = none) :
    Grows system (system.set location .directory) := by
  intro other
  rw [at?_set_of_free (by rw [isFree]; exact nofun)]
  by_cases here : other = location
  · subst here
    exact .inr ⟨isFree, if_pos rfl⟩
  · exact .inl (if_neg here)

/-- Writing where no directory stands keeps all directories. -/
theorem keepsDirectories_set {entry : Entry} (isFree : system.at? location ≠ some .directory) :
    KeepsDirectories system (system.set location entry) := by
  intro other isDirectory
  rw [at?_set_of_free isFree, if_neg]
  · exact isDirectory
  · rintro rfl
    exact isFree isDirectory

/-- Setting an entry leaves the files at other places as they are. -/
theorem sameFile_set_of_ne {entry : Entry} (isFree : system.at? location ≠ some .directory)
    (apart : other ≠ location) : SameFile system (system.set location entry) other := by
  intro mode text
  rw [at?_set_of_free isFree, if_neg apart]

/-- Setting a file that stands already changes nothing. -/
theorem same_set_file {mode : Nat} {text : String}
    (stands : system.at? location = some (.file mode text)) :
    Same system (system.set location (.file mode text)) := by
  intro other
  rw [at?_set_of_free (by rw [stands]; exact nofun)]
  by_cases here : other = location
  · rw [if_pos here, here, stands]
  · rw [if_neg here]

/-! ### The way along a path -/

/-- One component leads on from directories only. -/
theorem step_eq_ok_iff {component : String} {next : Location} :
    system.step location component = .ok next ↔
      system.at? location = some .directory ∧ component.utf8ByteSize ≤ nameLimit ∧
        next = if component = ".." then above location else location ++ [component] := by
  unfold step
  cases system.at? location with
  | none => simp
  | some entry =>
      cases entry with
      | file mode text => simp
      | directory =>
          dsimp only
          by_cases tooLong : nameLimit < component.utf8ByteSize
          · rw [if_pos tooLong]
            simp [Nat.not_le_of_lt tooLong]
          · rw [if_neg tooLong]
            have short := Nat.le_of_not_lt tooLong
            by_cases isParent : component = ".."
            · rw [if_pos isParent, if_pos isParent]
              simp [short, eq_comm]
            · rw [if_neg isParent, if_neg isParent]
              simp [short, eq_comm]

/-- Components lead to a place step by step. -/
theorem locate_cons_eq_ok_iff {component : String} {rest : List String} :
    system.locate location (component :: rest) = .ok other ↔
      ∃ next, system.step location component = .ok next ∧ system.locate next rest = .ok other := by
  rw [locate]
  cases system.step location component <;> simp

/-- Components lead where their first part leads and from there the others. -/
theorem locate_append_eq_ok_iff {first second : List String} :
    system.locate location (first ++ second) = .ok other ↔
      ∃ middle, system.locate location first = .ok middle ∧
        system.locate middle second = .ok other := by
  induction first generalizing location with
  | nil => simp [locate]
  | cons component rest inductionHypothesis =>
      rw [List.cons_append, locate_cons_eq_ok_iff]
      simp only [inductionHypothesis, locate_cons_eq_ok_iff]
      exact ⟨fun ⟨next, leads, middle, further⟩ => ⟨middle, ⟨next, leads, further.1⟩, further.2⟩,
        fun ⟨middle, ⟨next, leads, further⟩, last⟩ => ⟨next, leads, middle, further, last⟩⟩

/-- Without double points components stand one behind the other in their place. -/
theorem eq_append_of_locate {components : List String} (noParents : ".." ∉ components)
    (leads : system.locate location components = .ok other) : other = location ++ components := by
  induction components generalizing location with
  | nil =>
      cases leads
      exact (List.append_nil _).symm
  | cons component rest inductionHypothesis =>
      rw [List.mem_cons, not_or] at noParents
      obtain ⟨next, stepped, further⟩ := locate_cons_eq_ok_iff.mp leads
      obtain ⟨-, -, isNext⟩ := step_eq_ok_iff.mp stepped
      rw [if_neg (Ne.symm noParents.1)] at isNext
      rw [inductionHypothesis noParents.2 further, isNext, List.append_assoc]
      rfl

/-- Components lead to the same place while directories are kept. -/
theorem locate_of_keepsDirectories (keeps : KeepsDirectories before after)
    {components : List String} (leads : before.locate location components = .ok other) :
    after.locate location components = .ok other := by
  induction components generalizing location with
  | nil => exact leads
  | cons component rest inductionHypothesis =>
      obtain ⟨next, stepped, further⟩ := locate_cons_eq_ok_iff.mp leads
      obtain ⟨isDirectory, short, isNext⟩ := step_eq_ok_iff.mp stepped
      exact locate_cons_eq_ok_iff.mpr ⟨next,
        step_eq_ok_iff.mpr ⟨keeps location isDirectory, short, isNext⟩,
        inductionHypothesis further⟩

/-- A path leads to a place when it has no null character, is short enough, and its components
lead there. -/
theorem place_eq_ok_iff {path : Path} :
    system.place path = .ok location ↔
      path.hasNull = false ∧ path.text.utf8ByteSize ≤ pathLimit ∧
        system.locate (startOf path) path.components = .ok location := by
  unfold place
  by_cases hasNull : path.hasNull = true
  · simp [hasNull]
  · by_cases tooLong : pathLimit < path.text.utf8ByteSize
    · simp [hasNull, tooLong, Nat.not_le_of_lt tooLong]
    · simp [hasNull, tooLong, Nat.le_of_not_lt tooLong]

/-- A path that leads somewhere leads to the same place when there are more directories. -/
theorem place_of_keepsDirectories (keeps : KeepsDirectories before after) {path : Path}
    (leads : before.place path = .ok location) : after.place path = .ok location := by
  rw [place_eq_ok_iff] at leads ⊢
  exact ⟨leads.1, leads.2.1, locate_of_keepsDirectories keeps leads.2.2⟩

/-- Two paths lead to different places, also when the second is followed only after
directories were made. -/
def NeverMeet (first second : Path) : Prop :=
  ∀ before after location other, KeepsDirectories before after →
    before.place first = .ok location → after.place second = .ok other → location ≠ other

/-- Different paths below one directory never meet. -/
theorem neverMeet_of_ne {root : Path.Root} {base first second : List String}
    (firstNoParents : ".." ∉ first) (secondNoParents : ".." ∉ second) (apart : first ≠ second) :
    NeverMeet ⟨root, base ++ first⟩ ⟨root, base ++ second⟩ := by
  intro before after location other keeps leads otherLeads
  obtain ⟨-, -, leads⟩ := place_eq_ok_iff.mp leads
  obtain ⟨-, -, otherLeads⟩ := place_eq_ok_iff.mp otherLeads
  obtain ⟨middle, toMiddle, fromMiddle⟩ := locate_append_eq_ok_iff.mp leads
  obtain ⟨otherMiddle, toOther, fromOther⟩ := locate_append_eq_ok_iff.mp otherLeads
  -- The directory is found in both file systems, and at one place.
  obtain rfl : middle = otherMiddle :=
    Except.ok.inj ((locate_of_keepsDirectories keeps toMiddle).symm.trans toOther)
  rw [eq_append_of_locate firstNoParents fromMiddle,
    eq_append_of_locate secondNoParents fromOther]
  exact fun same => apart (List.append_cancel_left same)

end DocAtlas.FileSystem
