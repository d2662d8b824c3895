import DocAtlas.Proofs.Settings.Acceptance
import DocAtlas.Proofs.Settings.Fields
import Mathlib.Data.List.Sort
import Mathlib.Data.String.Basic

/-!
# Precedence of settings

Each setting is given by the highest of its sources that gives it, and `Sources.given?` says by
which. The merged fields are found to hold just that, so a value below another one plays no
part. What can go wrong before values are looked at is a file that cannot be used, and then a
name that no setting has; only the value that is left for a setting is checked.
-/

namespace DocAtlas.Settings

/-! ### What the sources give -/

/-- The settings that a file gives: its `searchdoc` table, or its top level without one. -/
def File.values (file : File) : List (String × Value) :=
  match file.table with
  | .error _ => []
  | .ok table =>
    match Value.lookup "searchdoc" table with
    | some (.record inner) => inner
    | _ => table

/-- Why a file cannot be used: it is unreadable, or its `searchdoc` entry is no table. -/
def File.obstacle? (file : File) : Option Fault :=
  match file.table with
  | .error reason => some (.settingsFileRefused file.label file.path reason)
  | .ok table =>
    match Value.lookup "searchdoc" table with
    | none | some (.record _) => none
    | some _ => some (.settingsFileRefused file.label file.path "[searchdoc] must be a table")

/-- The file that the caller names, if it is there. -/
def NamedFile.file? : NamedFile → Option File
  | .found file => some file
  | .absent | .missing _ => none

/-- Why the file that the caller names cannot be used. -/
def NamedFile.obstacle? : NamedFile → Option Fault
  | .absent => none
  | .missing path => some (.settingsFileMissing path)
  | .found file => file.obstacle?

/-- The first file that cannot be used decides what is reported. -/
def Sources.obstacle? (sources : Sources) : Option Fault :=
  (sources.globalFile.bind File.obstacle?).or <|
    (sources.projectFile.bind File.obstacle?).or sources.namedFile.obstacle?

/-- The value that a file gives a setting, if there is a file. -/
def fileValue? (name : String) (file? : Option File) : Option Value :=
  file?.bind fun file => Value.lastValue? name file.values

/-- The value that the environment gives a setting. -/
def environmentValue? (environment : Environment) (name : String) : Option Value :=
  if name ∈ names then
    (environment.value? (variableOf name)).bind fun written => (variableValue name written).toOption
  else none

/-- The value that the caller gives a setting. A true flag gives the verbosity, the quiet flag
before the verbose one and both before a verbosity; no flag gives a setting of its own name, and
null gives none. -/
def overrideValue? (overrides : List (String × Value)) (name : String) : Option Value :=
  if name = "quiet" ∨ name = "verbose" then none
  else if name = "verbosity" ∧ (Value.field "quiet" overrides).isGiven = true then
    some (.text "quiet")
  else if name = "verbosity" ∧ (Value.field "verbose" overrides).isGiven = true then
    some (.text "verbose")
  else (Value.lookup name overrides).filter isSet

/-- The value that the highest source gives: the caller, the environment, the named file, the
project file, the global file. -/
def Sources.given? (sources : Sources) (name : String) : Option Value :=
  (overrideValue? sources.overrides name).or <|
    (environmentValue? sources.environment name).or <|
      (fileValue? name sources.namedFile.file?).or <|
        (fileValue? name sources.projectFile).or (fileValue? name sources.globalFile)

/-- The settings that some source gives, with their values. -/
def Sources.mapping (sources : Sources) : List (String × Value) :=
  names.filterMap fun name => (sources.given? name).map (name, ·)

/-- Sources as a caller can give them: the variables can be parsed, and the caller's values have
distinct names, none of them that of the file. -/
structure Sources.AreSound (sources : Sources) : Prop where
  parse : ∀ name ∈ names, ∀ written ∈ sources.environment.value? (variableOf name),
    (variableValue name written).isOk = true
  distinct : (sources.overrides.map (·.1)).Nodup
  unreserved : reservedName ∉ sources.overrides.map (·.1)

/-! ### Files and variables -/

/-- A file gives its fields unless an obstacle stands in its way. -/
theorem File.fields_eq (file : File) :
    file.fields =
      match file.obstacle? with
      | some fault => refuse fault
      | none => .ok file.values := by
  unfold File.fields File.obstacle? File.values
  cases file.table with
  | error reason => rfl
  | ok table =>
      cases found : Value.lookup "searchdoc" table with
      | none => simp [found]
      | some value => cases value <;> simp [found]

/-- A file that need not be there is an obstacle or gives its settings. -/
theorem optionalFields_cases (file? : Option File) :
    (∃ fault, file?.bind File.obstacle? = some fault ∧ optionalFields file? = refuse fault) ∨
      (file?.bind File.obstacle? = none ∧ ∃ fields, optionalFields file? = .ok fields ∧
        ∀ name, Value.lastValue? name fields = fileValue? name file?) := by
  cases file? with
  | none => exact .inr ⟨rfl, [], rfl, fun _ => rfl⟩
  | some file =>
      rw [Option.bind_some, optionalFields, file.fields_eq]
      cases file.obstacle? with
      | some fault => exact .inl ⟨fault, rfl, rfl⟩
      | none => exact .inr ⟨rfl, _, rfl, fun _ => rfl⟩

/-- A named file fails for its obstacle, or it gives its values. -/
theorem NamedFile.fields_cases (named : NamedFile) :
    (∃ fault, named.obstacle? = some fault ∧ named.fields = refuse fault) ∨
      (named.obstacle? = none ∧ ∃ fields, named.fields = .ok fields ∧
        ∀ name, Value.lastValue? name fields = fileValue? name named.file?) := by
  cases named with
  | absent => exact .inr ⟨rfl, [], rfl, fun _ => rfl⟩
  | missing path => exact .inl ⟨_, rfl, rfl⟩
  | found file => exact optionalFields_cases (some file)

/-- Variables that can be parsed are collected in the order of the settings. -/
theorem environmentFields_eq {environment : Environment} {keys : List String}
    (among : ∀ key ∈ keys, key ∈ names)
    (parse : ∀ key ∈ keys, ∀ written ∈ environment.value? (variableOf key),
      (variableValue key written).isOk = true) :
    environmentFields environment keys =
      .ok (keys.filterMap fun key => (environmentValue? environment key).map (key, ·)) := by
  induction keys with
  | nil => rfl
  | cons key rest inductionHypothesis =>
      rw [List.forall_mem_cons] at among parse
      have others := inductionHypothesis among.2 parse.2
      have isGiven : environmentValue? environment key =
          (environment.value? (variableOf key)).bind fun written =>
            (variableValue key written).toOption := if_pos among.1
      rw [environmentFields, List.filterMap_cons, isGiven]
      cases isSet : environment.value? (variableOf key) with
      | none => exact others
      | some written =>
          have parses := parse.1 written isSet
          cases parsed : variableValue key written with
          | error failure =>
              rw [parsed] at parses
              exact absurd parses nofun
          | ok value =>
              simp only [parsed, others, Checked.ok_bind, Option.bind_some]
              rfl

/-! ### The caller's values -/

/-- A flag is taken out, and sets the verbosity when it is given. -/
theorem lookup_withoutFlag {fields : List (String × Value)} (distinct : (fields.map (·.1)).Nodup)
    (flag : String × Verbosity) (name : String) :
    Value.lookup name (withoutFlag fields flag) =
      if name = "verbosity" ∧ (Value.field flag.1 fields).isGiven = true then
        some (.text flag.2.word)
      else if name = flag.1 then none else Value.lookup name fields := by
  have others : Value.lookup name (fields.filter fun entry => entry.1 ≠ flag.1) =
      if name = flag.1 then none else Value.lookup name fields := by
    rw [Value.lookup_filter distinct]
    by_cases isFlag : name = flag.1 <;> cases Value.lookup name fields <;>
      simp [isFlag, Option.filter_some]
  unfold withoutFlag
  by_cases isGiven : (Value.field flag.1 fields).isGiven = true
  · simp only [isGiven, if_true, and_true, Value.lookup_setField, others]
  · simp only [isGiven, and_false, if_false, Bool.false_eq_true, others]

/-- Replacing a flag by the verbosity it stands for repeats no name. -/
theorem nodup_withoutFlag {fields : List (String × Value)} (distinct : (fields.map (·.1)).Nodup)
    (flag : String × Verbosity) : ((withoutFlag fields flag).map (·.1)).Nodup := by
  have filtered := Value.nodup_filter distinct fun entry => entry.1 ≠ flag.1
  unfold withoutFlag
  split
  · exact Value.nodup_setField filtered _ _
  · exact filtered

section Overrides

variable {overrides : List (String × Value)} (distinct : (overrides.map (·.1)).Nodup)
include distinct

/-- The values of the caller that are set are those that its overrides give. -/
theorem lastValue?_setOverrides (name : String) :
    Value.lastValue? name (setOverrides overrides) = overrideValue? overrides name := by
  have distinctBehind := nodup_withoutFlag distinct ("verbose", .verbose)
  have distinctLast := nodup_withoutFlag distinctBehind ("quiet", .quiet)
  -- Taking the verbose flag out leaves the quiet one as it is.
  have quiet : Value.field "quiet" (withoutFlag overrides ("verbose", .verbose)) =
      Value.field "quiet" overrides := by
    rw [Value.field, lookup_withoutFlag distinct]
    rfl
  have isSetOverrides : setOverrides overrides =
      (withoutFlag (withoutFlag overrides ("verbose", .verbose)) ("quiet", .quiet)).filter
        fun entry => isSet entry.2 := rfl
  rw [isSetOverrides, Value.lastValue?_of_nodup (Value.nodup_filter distinctLast _),
    Value.lookup_filter distinctLast, lookup_withoutFlag distinctBehind, quiet,
    lookup_withoutFlag distinct]
  unfold overrideValue?
  by_cases isQuiet : name = "quiet"
  · subst isQuiet
    simp
  by_cases isVerbose : name = "verbose"
  · subst isVerbose
    simp
  rw [if_neg isQuiet, if_neg isVerbose, if_neg (not_or.mpr ⟨isQuiet, isVerbose⟩)]
  split_ifs <;> rfl

end Overrides

/-! ### Merging -/

section Sound

variable {sources : Sources} (sound : sources.AreSound)
include sound

/-- The sources are merged unless a file cannot be used. Every name is then found with the value
of the highest source that gives it, and is found once. -/
theorem merge_cases :
    (∃ fault, sources.obstacle? = some fault ∧ merge sources = refuse fault) ∨
      (sources.obstacle? = none ∧ ∃ fields, merge sources = .ok fields ∧
        (fields.map (·.1)).Nodup ∧ ∀ name, Value.lookup name fields = sources.given? name) := by
  unfold merge Sources.obstacle?
  rcases optionalFields_cases sources.globalFile with
    ⟨fault, isObstacle, refused⟩ | ⟨fine, fromGlobal, isGlobal, globalValue⟩
  · rw [refused, isObstacle]
    exact .inl ⟨fault, rfl, rfl⟩
  rcases optionalFields_cases sources.projectFile with
    ⟨fault, isObstacle, refused⟩ | ⟨projectFine, fromProject, isProject, projectValue⟩
  · rw [isGlobal, fine, refused, isObstacle]
    exact .inl ⟨fault, rfl, rfl⟩
  rcases sources.namedFile.fields_cases with
    ⟨fault, isObstacle, refused⟩ | ⟨namedFine, fromNamed, isNamed, namedValue⟩
  · rw [isGlobal, fine, isProject, projectFine, refused, isObstacle]
    exact .inl ⟨fault, rfl, rfl⟩
  rw [isGlobal, fine, isProject, projectFine, isNamed, namedFine,
    environmentFields_eq (fun _ isName => isName) sound.parse]
  refine .inr ⟨rfl, _, rfl, ?_, fun name => ?_⟩
  · exact nodup_overlay _ (nodup_overlay _ (nodup_overlay _ (nodup_overlay _
      (nodup_overlay _ List.nodup_nil))))
  · have environmentValue : (if name ∈ names then environmentValue? sources.environment name
        else none) = environmentValue? sources.environment name := by
      unfold environmentValue?
      split <;> rfl
    simp only [lookup_overlay, lastValue?_setOverrides sound.distinct, Value.lastValue?_collect,
      environmentValue, globalValue, projectValue, namedValue]
    exact congrArg _ (congrArg _ (congrArg _ (congrArg _ Option.or_none)))

end Sound

/-- The unknown names of fields are those that no setting has, each once and in order. -/
theorem unknownNames_spec {fields : List (String × Value)} (distinct : (fields.map (·.1)).Nodup) :
    (unknownNames fields).Pairwise (· < ·) ∧
      ∀ name, name ∈ unknownNames fields ↔
        name ∉ names ∧ (Value.lookup name fields).isSome = true := by
  have perm : (unknownNames fields).Perm
      ((fields.map (·.1)).filter fun name => !names.contains name) := List.mergeSort_perm _ _
  have weakly : (unknownNames fields).Pairwise (· ≤ ·) := List.pairwise_mergeSort' (· ≤ ·) _
  have differ := List.nodup_iff_pairwise_ne.mp (perm.nodup_iff.mpr (distinct.filter _))
  refine ⟨(weakly.and differ).imp fun both => lt_of_le_of_ne both.1 both.2, fun name => ?_⟩
  rw [perm.mem_iff, List.mem_filter, Value.isSome_lookup_iff, and_comm]
  simp

/-- Fields that hold what the sources give are as good as the mapping of the sources. -/
theorem valueOf_mapping {sources : Sources} {fields : List (String × Value)}
    (known : ∀ entry ∈ fields, entry.1 ∈ names)
    (given : ∀ name, Value.lookup name fields = sources.given? name)
    (environment : Environment) (key : String) :
    valueOf environment fields key = valueOf environment sources.mapping key := by
  unfold valueOf Sources.mapping
  rw [Value.lookup_collect, given]
  by_cases isName : key ∈ names
  · rw [if_pos isName]
  · have absent : Value.lookup key fields = none := by
      rw [Value.lookup_eq_none_iff, List.mem_map]
      rintro ⟨entry, isEntry, rfl⟩
      exact isName (known entry isEntry)
    rw [if_neg isName, ← given, absent]

/-- The merged sources give no unknown setting. -/
theorem Sources.mapping_known (sources : Sources) : ∀ entry ∈ sources.mapping, entry.1 ∈ names := by
  intro entry isEntry
  obtain ⟨name, isName, given⟩ := List.mem_filterMap.mp isEntry
  obtain ⟨value, -, rfl⟩ := Option.map_eq_some_iff.mp given
  exact isName

/-! ### Settings of sources -/

/-- Names that no setting has are never what made settings are refused for. -/
theorem ofFields_ne_unknownSettings {environment : Environment} {fields : List (String × Value)}
    {keys : List String} : ofFields environment fields ≠ refuse (.unknownSettings keys) := by
  intro refused
  obtain ⟨key, -, reason, isInvalid⟩ := ofFields_fault refused
  exact absurd isInvalid nofun

section Settled

variable {sources : Sources} (sound : sources.AreSound)
include sound

/-- No caller gives the reserved name. -/
theorem any_reserved_eq_false :
    (sources.overrides.any fun entry => entry.1 == reservedName) = false := by
  rw [List.any_eq_false]
  intro entry isEntry isReserved
  exact sound.unreserved (List.mem_map.mpr ⟨entry, isEntry, beq_iff_eq.mp isReserved⟩)

/-- Sources with an obstacle are refused for it. -/
theorem ofSources_of_obstacle {fault : Fault} (isObstacle : sources.obstacle? = some fault) :
    ofSources sources = refuse fault := by
  unfold ofSources
  rw [any_reserved_eq_false sound]
  rcases merge_cases sound with ⟨first, isFirst, refused⟩ | ⟨fine, -⟩
  · rw [refused, Option.some.inj (isObstacle.symm.trans isFirst)]
    rfl
  · exact absurd (isObstacle.symm.trans fine) nofun

variable (fine : sources.obstacle? = none)
include fine

/-- Sources whose files can be used are refused for unknown names, and are as good as their
mapping without one. -/
theorem ofSources_cases :
    ∃ unknown : List String, unknown.Pairwise (· < ·) ∧
      (∀ name, name ∈ unknown ↔ name ∉ names ∧ (sources.given? name).isSome = true) ∧
      ((unknown ≠ [] ∧ ofSources sources = refuse (.unknownSettings unknown)) ∨
        (unknown = [] ∧ ofSources sources = ofFields sources.environment sources.mapping)) := by
  unfold ofSources
  rw [any_reserved_eq_false sound]
  rcases merge_cases sound with ⟨fault, isObstacle, -⟩ | ⟨-, fields, merged, distinct, given⟩
  · exact absurd (isObstacle.symm.trans fine) nofun
  obtain ⟨sorted, mem⟩ := unknownNames_spec distinct
  simp only [given] at mem
  refine ⟨unknownNames fields, sorted, mem, ?_⟩
  rw [merged]
  cases isUnknown : unknownNames fields with
  | cons first rest =>
      refine .inl ⟨List.cons_ne_nil _ _, ?_⟩
      simp only [Checked.ok_bind, isUnknown]
      rfl
  | nil =>
      have known : ∀ entry ∈ fields, entry.1 ∈ names := by
        intro entry isEntry
        by_contra isOther
        have isGiven : (sources.given? entry.1).isSome = true := by
          rw [← given, Value.isSome_lookup_iff]
          exact List.mem_map_of_mem isEntry
        have listed := (mem entry.1).mpr ⟨isOther, isGiven⟩
        rw [isUnknown] at listed
        exact absurd listed List.not_mem_nil
      refine .inr ⟨rfl, ?_⟩
      simp only [Checked.ok_bind, isUnknown]
      exact ofFields_congr known sources.mapping_known
        (valueOf_mapping known given sources.environment)

/-- The refusal for unknown names lists them all. -/
theorem ofSources_unknown :
    ∃ unknown : List String, unknown.Pairwise (· < ·) ∧
      (∀ name, name ∈ unknown ↔ name ∉ names ∧ (sources.given? name).isSome = true) ∧
      (∀ keys, ofSources sources = refuse (.unknownSettings keys) ↔
        keys = unknown ∧ unknown ≠ []) ∧
      (unknown = [] → ofSources sources = ofFields sources.environment sources.mapping) := by
  obtain ⟨unknown, sorted, mem, ⟨someUnknown, refused⟩ | ⟨noneUnknown, asMapping⟩⟩ :=
    ofSources_cases sound fine
  · refine ⟨unknown, sorted, mem, fun keys => ?_, fun noneUnknown => absurd noneUnknown someUnknown⟩
    rw [refused]
    constructor
    · intro same
      cases same
      exact ⟨rfl, someUnknown⟩
    · rintro ⟨rfl, -⟩
      rfl
  · refine ⟨unknown, sorted, mem, fun keys => ?_, fun _ => asMapping⟩
    rw [asMapping]
    exact ⟨fun refused => absurd refused ofFields_ne_unknownSettings,
      fun ⟨_, someUnknown⟩ => absurd noneUnknown someUnknown⟩

/-- Settings that are made of sources have the value of the highest source, or their default. -/
theorem fields_of_ofSources {settings : Settings} (made : ofSources sources = .ok settings) :
    settings.fields = names.map fun name =>
      (name, (sources.given? name).getD (Value.field name (defaults sources.environment))) := by
  obtain ⟨unknown, -, -, ⟨-, refused⟩ | ⟨-, asMapping⟩⟩ := ofSources_cases sound fine
  · exact absurd (made.symm.trans refused) nofun
  · rw [fields_of_ofFields (asMapping.symm.trans made)]
    refine List.map_congr_left fun name isName => ?_
    rw [valueOf, Sources.mapping, Value.lookup_collect, if_pos isName]

/-- Values below others never count: other sources whose highest values are the same, with the
same default title, give the same settings or the same refusal. -/
theorem ofSources_congr {other : Sources} (otherSound : other.AreSound)
    (otherFine : other.obstacle? = none)
    (sameTitle : defaultTitle other.environment = defaultTitle sources.environment)
    (same : ∀ name, other.given? name = sources.given? name) :
    ofSources other = ofSources sources := by
  obtain ⟨unknown, sorted, mem, outcome⟩ := ofSources_cases sound fine
  obtain ⟨otherUnknown, otherSorted, otherMem, otherOutcome⟩ :=
    ofSources_cases otherSound otherFine
  have sameUnknown : otherUnknown = unknown :=
    otherSorted.eq_of_mem_iff sorted fun name => by rw [otherMem, mem, same]
  have sameMapping : other.mapping = sources.mapping := by
    unfold Sources.mapping
    simp only [same]
  have sameDefaults : defaults other.environment = defaults sources.environment := by
    unfold defaults
    rw [sameTitle]
  have sameFields : ofFields other.environment other.mapping =
      ofFields sources.environment sources.mapping := by
    refine ofFields_congr other.mapping_known sources.mapping_known fun key => ?_
    rw [valueOf, valueOf, sameMapping, sameDefaults]
  subst sameUnknown
  rcases outcome with ⟨someUnknown, refused⟩ | ⟨noneUnknown, asMapping⟩
  · rcases otherOutcome with ⟨-, otherRefused⟩ | ⟨noneUnknown, -⟩
    · rw [otherRefused, refused]
    · exact absurd noneUnknown someUnknown
  · rcases otherOutcome with ⟨someUnknown, -⟩ | ⟨-, otherMapping⟩
    · exact absurd noneUnknown someUnknown
    · rw [otherMapping, asMapping, sameFields]

end Settled

/-- Settings follow the precedence of their sources. The first file that cannot be used is
reported, in the order in which files are read. Otherwise settings are refused for unknown names
exactly when some source gives one, with all of them in order, and are else what the highest
values of the sources make. When they are made, each has that value or its default, and values
below others never count. -/
theorem ofSources_precedence {sources : Sources} (sound : sources.AreSound) :
    (∀ fault, sources.obstacle? = some fault → ofSources sources = refuse fault) ∧
      (sources.obstacle? = none →
        (∃ unknown : List String, unknown.Pairwise (· < ·) ∧
          (∀ name, name ∈ unknown ↔ name ∉ names ∧ (sources.given? name).isSome = true) ∧
          (∀ keys, ofSources sources = refuse (.unknownSettings keys) ↔
            keys = unknown ∧ unknown ≠ []) ∧
          (unknown = [] →
            ofSources sources = ofFields sources.environment sources.mapping)) ∧
        (∀ settings, ofSources sources = .ok settings →
          settings.fields = names.map fun name =>
            (name, (sources.given? name).getD
              (Value.field name (defaults sources.environment)))) ∧
        ∀ other : Sources, other.AreSound → other.obstacle? = none →
          defaultTitle other.environment = defaultTitle sources.environment →
          (∀ name, other.given? name = sources.given? name) →
          ofSources other = ofSources sources) := by
  refine ⟨fun fault isObstacle => ofSources_of_obstacle sound isObstacle, fun fine => ?_⟩
  refine ⟨ofSources_unknown sound fine, fun settings made => ?_, ?_⟩
  · exact fields_of_ofSources sound fine made
  · intro other otherSound otherFine sameTitle same
    exact ofSources_congr sound fine otherSound otherFine sameTitle same

/-- Sources of every kind. The output directory, the title and the verbosity are given more than
once, with values below others that no setting takes. -/
def layered : Sources where
  globalFile := some (.ofHome "~" (.text "title = 'Home'\nlog_file = 'run.log'\n"))
  projectFile := some (.ofProject "." (.text "hue = 'red'\n[searchdoc]\ntitle = 'Site'\n"))
  namedFile := .found (.ofPath "custom.toml" (.text "output_dir = []\nmain_page = 'a.md'\n"))
  environment := [("SEARCHDOC_OUTPUT_DIR", "site"), ("SEARCHDOC_DRY_RUN", "YES")]
  overrides := [("title", .null), ("verbosity", .text "loud"), ("quiet", .bool false),
    ("verbose", .bool true)]

/-- The values below others, the top level of the project file and the null of the caller play
no part. -/
theorem layered_precedence :
    layered.AreSound ∧ layered.obstacle? = none ∧
      ∃ settings, ofSources layered = .ok settings ∧
        settings.fields.map (fun entry => (entry.1, entry.2.display)) =
          [("output_dir", "site"), ("tree_file", "panel/tree.js"),
            ("search_index_file", "js/search-index.js"), ("tree_variable", "tree"),
            ("files_label", "files"), ("title", "Site"), ("main_page", "a.md"),
            ("dry_run", "True"), ("verbosity", "verbose"), ("log_file", "run.log")] := by
  have sound : layered.AreSound := ⟨by decide +kernel, by decide, by decide⟩
  have fine : layered.obstacle? = none := Option.isNone_iff_eq_none.mp (by decide +kernel)
  have succeeds : (ofSources layered).isOk = true := by decide +kernel
  cases made : ofSources layered with
  | error failure =>
      rw [made] at succeeds
      exact absurd succeeds nofun
  | ok settings =>
      have fields := ((ofSources_precedence sound).2 fine).2.1 settings made
      refine ⟨sound, fine, settings, rfl, ?_⟩
      rw [fields]
      decide +kernel

/-- A file whose `searchdoc` entry is no table. -/
def stray : Sources where
  namedFile := .found (.ofPath "custom.toml" (.text "searchdoc = true\n"))

/-- The entry is refused for what it is, and not taken from the top level as a name that no
setting has. -/
theorem stray_entry_refused :
    stray.AreSound ∧ stray.given? "searchdoc" = some (.bool true) ∧ "searchdoc" ∉ names ∧
      ofSources stray = refuse
        (.settingsFileRefused "config file" "custom.toml" "[searchdoc] must be a table") ∧
      ∀ keys, ofSources stray ≠ refuse (.unknownSettings keys) :=
  ⟨⟨by decide +kernel, by decide, by decide⟩, rfl, by decide, rfl, fun _ => nofun⟩

end DocAtlas.Settings
