import DocAtlas.Proofs.Checked
import DocAtlas.Settings

/-!
# Accepted settings

This module says what acceptance promises of settings, whatever sources their values come
from. The names of the artifacts are relative and lead nowhere above the output directory,
which is all that is known of their spelling: points and doubled slashes are accepted.
-/

namespace DocAtlas.Settings

/-- A text spells a path that stays below the directory that it is looked up in. -/
structure StaysBelow (file : String) : Prop where
  isRelative : (Path.ofString file).isAbsolute = false
  noParents : ".." ∉ (Path.ofString file).components

/-- The promises that acceptance keeps for settings. -/
structure IsAccepted (settings : Settings) : Prop where
  outputDir : settings.outputDir.isGiven = true
  treeFile : StaysBelow settings.treeFile
  searchIndexFile : StaysBelow settings.searchIndexFile
  filesDiffer : settings.treeFile ≠ settings.searchIndexFile
  treeVariable : isIdentifier settings.treeVariable.toList = true
  filesLabel : settings.filesLabel.isGiven = true

/-- A value passes when it is given. -/
theorem checkGiven_eq_ok_iff {key : String} {value : Value} :
    checkGiven key value = .ok () ↔ value.isGiven = true := by
  unfold checkGiven
  cases value.isGiven <;> simp [refuse]

/-- The name of an artifact passes its check when it is a given text that stays below. -/
theorem checkRelative_eq_ok_iff {key file : String} {value : Value} :
    checkRelative key value = .ok file ↔
      value.isGiven = true ∧ value = .text file ∧ StaysBelow file := by
  unfold checkRelative
  rw [Checked.check_bind_eq_ok, checkGiven_eq_ok_iff]
  refine and_congr_right fun _ => ?_
  cases value with
  | text written =>
      dsimp only
      by_cases leads : ((Path.ofString written).isAbsolute ||
          (Path.ofString written).components.contains "..") = true
      · rw [if_pos leads]
        refine ⟨nofun, ?_⟩
        rintro ⟨same, stays⟩
        cases same
        simp [stays.isRelative, stays.noParents] at leads
      · rw [if_neg leads]
        rw [Bool.or_eq_true, not_or, Bool.not_eq_true, List.contains_iff_mem] at leads
        constructor
        · intro same
          cases same
          exact ⟨rfl, leads.1, leads.2⟩
        · rintro ⟨same, -⟩
          cases same
          rfl
  | _ => exact ⟨nofun, fun isText => absurd isText.1 nofun⟩

/-- An identifier passes when it is a text that is one. -/
theorem checkIdentifier_eq_ok_iff {key identifier : String} {value : Value} :
    checkIdentifier key value = .ok identifier ↔
      value = .text identifier ∧ isIdentifier identifier.toList = true := by
  unfold checkIdentifier
  cases value with
  | text written =>
      dsimp only
      split
      · rename_i isFine
        exact ⟨fun same => by cases same; exact ⟨rfl, isFine⟩,
          fun both => by cases both.1; rfl⟩
      · rename_i isFaulty
        exact ⟨nofun, fun both => by cases both.1; exact absurd both.2 isFaulty⟩
  | _ => exact ⟨nofun, fun isText => absurd isText.1 nofun⟩

/-- A value names the verbosity whose word it is. -/
theorem verbosityNamed?_eq_some_iff {value : Value} {verbosity : Verbosity} :
    verbosityNamed? value = some verbosity ↔ value = .text verbosity.word := by
  constructor
  · intro named
    cases value with
    | text word =>
        change Verbosity.ofWord? word = some verbosity at named
        unfold Verbosity.ofWord? at named
        split at named <;> cases named <;> rfl
    | _ => exact absurd named nofun
  · rintro rfl
    cases verbosity <;> rfl

/-- A verbosity passes when it is the word for it. -/
theorem checkVerbosity_eq_ok_iff {value : Value} {verbosity : Verbosity} :
    checkVerbosity value = .ok verbosity ↔ value = .text verbosity.word := by
  rw [← verbosityNamed?_eq_some_iff]
  unfold checkVerbosity
  cases verbosityNamed? value with
  | some other => simp
  | none => cases value.isWritable <;> simp [refuse, reject]

/-- Settings that are made from fields keep the promises of acceptance. -/
theorem isAccepted_of_ofFields {environment : Environment} {fields : List (String × Value)}
    {settings : Settings} (made : ofFields environment fields = .ok settings) :
    settings.IsAccepted := by
  unfold ofFields at made
  split at made
  · exact absurd made nofun
  obtain ⟨outputDir, made⟩ := Checked.check_bind_eq_ok.mp made
  obtain ⟨treeFile, isTreeFile, made⟩ := Checked.bind_eq_ok.mp made
  obtain ⟨indexFile, isIndexFile, made⟩ := Checked.bind_eq_ok.mp made
  split at made
  · exact absurd made nofun
  rename_i differ
  obtain ⟨identifier, isIdentifier, made⟩ := Checked.bind_eq_ok.mp made
  obtain ⟨filesLabel, made⟩ := Checked.check_bind_eq_ok.mp made
  obtain ⟨_, -, made⟩ := Checked.bind_eq_ok.mp made
  cases made
  exact
    { outputDir := checkGiven_eq_ok_iff.mp outputDir
      treeFile := (checkRelative_eq_ok_iff.mp isTreeFile).2.2
      searchIndexFile := (checkRelative_eq_ok_iff.mp isIndexFile).2.2
      filesDiffer := differ
      treeVariable := (checkIdentifier_eq_ok_iff.mp isIdentifier).2
      filesLabel := checkGiven_eq_ok_iff.mp filesLabel }

/-! ### Values and refusals -/

section Checks

variable {key : String} {value : Value} {fault : Fault}

/-- A value that is not given is refused under its own key. -/
theorem checkGiven_fault (refused : checkGiven key value = refuse fault) :
    ∃ reason, fault = .invalidSetting key value reason := by
  unfold checkGiven at refused
  split at refused
  · exact absurd refused nofun
  · cases refused
    exact ⟨_, rfl⟩

/-- A file that may not be named is refused under its own key. -/
theorem checkRelative_fault (refused : checkRelative key value = refuse fault) :
    ∃ reason, fault = .invalidSetting key value reason := by
  unfold checkRelative at refused
  rcases Checked.bind_eq_error.mp refused with notGiven | ⟨_, -, refused⟩
  · exact checkGiven_fault notGiven
  · cases value with
    | text written =>
        dsimp only at refused
        split at refused
        · cases refused
          exact ⟨_, rfl⟩
        · exact absurd refused nofun
    | _ => exact absurd refused nofun

/-- A text that is no identifier is refused under its own key. -/
theorem checkIdentifier_fault (refused : checkIdentifier key value = refuse fault) :
    ∃ reason, fault = .invalidSetting key value reason := by
  unfold checkIdentifier at refused
  cases value with
  | text written =>
      dsimp only at refused
      split at refused
      · exact absurd refused nofun
      · cases refused
        exact ⟨_, rfl⟩
  | _ => exact absurd refused nofun

/-- A value that is no verbosity is refused under that key. -/
theorem checkVerbosity_fault (refused : checkVerbosity value = refuse fault) :
    ∃ reason, fault = .invalidSetting "verbosity" value reason := by
  unfold checkVerbosity at refused
  split at refused
  · exact absurd refused nofun
  · split at refused
    · cases refused
      exact ⟨_, rfl⟩
    · exact absurd refused nofun

end Checks

section Fields

variable {environment : Environment} {fields : List (String × Value)}

/-- No field is unknown when every name is that of a setting. -/
theorem find?_unknown_eq_none_iff :
    (fields.find? fun entry => !names.contains entry.1) = none ↔
      ∀ entry ∈ fields, entry.1 ∈ names := by
  simp

/-- Settings are made of nothing but the values that they have. -/
theorem ofFields_congr {other : Environment} {others : List (String × Value)}
    (known : ∀ entry ∈ fields, entry.1 ∈ names) (othersKnown : ∀ entry ∈ others, entry.1 ∈ names)
    (same : ∀ key, valueOf environment fields key = valueOf other others key) :
    ofFields environment fields = ofFields other others := by
  unfold ofFields
  rw [find?_unknown_eq_none_iff.mpr known, find?_unknown_eq_none_iff.mpr othersKnown]
  simp only [same]

/-- Settings are refused for one of them, with the value that it has. -/
theorem ofFields_fault {fault : Fault} (refused : ofFields environment fields = refuse fault) :
    ∃ key ∈ names, ∃ reason,
      fault = .invalidSetting key (valueOf environment fields key) reason := by
  unfold ofFields at refused
  split at refused
  · exact absurd refused nofun
  rcases Checked.bind_eq_error.mp refused with failed | ⟨_, -, refused⟩
  · exact ⟨"output_dir", by decide, checkGiven_fault failed⟩
  rcases Checked.bind_eq_error.mp refused with failed | ⟨treeFile, -, refused⟩
  · exact ⟨"tree_file", by decide, checkRelative_fault failed⟩
  rcases Checked.bind_eq_error.mp refused with failed | ⟨indexFile, isIndexFile, refused⟩
  · exact ⟨"search_index_file", by decide, checkRelative_fault failed⟩
  split at refused
  · cases refused
    refine ⟨"search_index_file", by decide, "must differ from tree_file", ?_⟩
    rw [(checkRelative_eq_ok_iff.mp isIndexFile).2.1]
  rcases Checked.bind_eq_error.mp refused with failed | ⟨_, -, refused⟩
  · exact ⟨"tree_variable", by decide, checkIdentifier_fault failed⟩
  rcases Checked.bind_eq_error.mp refused with failed | ⟨_, -, refused⟩
  · exact ⟨"files_label", by decide, checkGiven_fault failed⟩
  rcases Checked.bind_eq_error.mp refused with failed | ⟨_, -, refused⟩
  · exact ⟨"verbosity", by decide, checkVerbosity_fault failed⟩
  · exact absurd refused nofun

/-- Settings that are made have the values that were given and the defaults of the others. -/
theorem fields_of_ofFields {settings : Settings}
    (made : ofFields environment fields = .ok settings) :
    settings.fields = names.map fun name => (name, valueOf environment fields name) := by
  unfold ofFields at made
  split at made
  · exact absurd made nofun
  obtain ⟨-, made⟩ := Checked.check_bind_eq_ok.mp made
  obtain ⟨treeFile, isTreeFile, made⟩ := Checked.bind_eq_ok.mp made
  obtain ⟨indexFile, isIndexFile, made⟩ := Checked.bind_eq_ok.mp made
  split at made
  · exact absurd made nofun
  obtain ⟨identifier, isIdentifier, made⟩ := Checked.bind_eq_ok.mp made
  obtain ⟨-, made⟩ := Checked.check_bind_eq_ok.mp made
  obtain ⟨verbosity, isVerbosity, made⟩ := Checked.bind_eq_ok.mp made
  cases made
  unfold Settings.fields
  rw [← (checkRelative_eq_ok_iff.mp isTreeFile).2.1, ← (checkRelative_eq_ok_iff.mp isIndexFile).2.1,
    ← (checkIdentifier_eq_ok_iff.mp isIdentifier).1, ← checkVerbosity_eq_ok_iff.mp isVerbosity]
  rfl

end Fields

end DocAtlas.Settings
