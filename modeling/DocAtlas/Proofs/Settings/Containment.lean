import DocAtlas.Proofs.FileSystem.Places
import DocAtlas.Proofs.Settings.Layout
import Mathlib.Data.List.Basic

/-!
# Containment in the output directory

The name of an artifact is checked in one form, the path that it spells, and used in another,
joined to the path of the output directory. Joining may replace a path and cuts its text anew,
so what the check saw has to be found again in the result. The paths and their texts are joined
alike, and an accepted name adds components to the output directory that never lead up.
-/

namespace DocAtlas

namespace Text

/-- A text that is cut has a part at least. -/
theorem splitChars_ne_nil (separator : Char) (chars : List Char) :
    splitChars separator chars ≠ [] := by
  cases chars with
  | nil => exact List.cons_ne_nil _ _
  | cons c rest =>
      rw [splitChars]
      split
      · exact List.cons_ne_nil _ _
      · split <;> exact List.cons_ne_nil _ _

/-- A text is cut at a separator into the parts before it and those behind it. -/
theorem splitChars_append (separator : Char) (front back : List Char) :
    splitChars separator (front ++ separator :: back) =
      splitChars separator front ++ splitChars separator back := by
  induction front with
  | nil => simp [splitChars]
  | cons c rest inductionHypothesis =>
      rw [List.cons_append, splitChars, splitChars, inductionHypothesis]
      by_cases isSeparator : c = separator
      · rw [if_pos isSeparator, if_pos isSeparator, List.cons_append]
      · rw [if_neg isSeparator, if_neg isSeparator]
        cases splits : splitChars separator rest with
        | nil => exact absurd splits (splitChars_ne_nil separator rest)
        | cons first parts => rfl

/-- The segments of two paths with a slash between them are those of both. -/
theorem segments_append_slash (front back : String) :
    segments (front ++ "/" ++ back) = segments front ++ segments back := by
  unfold segments
  have chars : (front ++ "/" ++ back).toList = front.toList ++ '/' :: back.toList := by simp
  rw [chars, splitChars_append, List.filter_append, List.map_append]

/-- A slash at the end of a text does not count twice. -/
theorem segments_append_of_ends {front back : String} (ends : front.toList.getLast? = some '/') :
    segments (front ++ back) = segments front ++ segments back := by
  obtain ⟨start, isFront⟩ := List.getLast?_eq_some_iff.mp ends
  obtain rfl : front = String.ofList start ++ "/" := by
    rw [← String.toList_inj, isFront]
    simp
  have alone := segments_append_slash (String.ofList start) ""
  rw [String.append_empty] at alone
  rw [segments_append_slash, alone, show segments "" = [] from rfl, List.append_nil]

end Text

namespace Path

/-- A text spells a path with a root when it starts with a slash. -/
theorem isAbsolute_ofString_iff {text : String} :
    (ofString text).isAbsolute = true ↔ text.toList.head? = some '/' := by
  unfold isAbsolute ofString
  cases text.toList with
  | nil => simp [rootOf]
  | cons first rest =>
      by_cases isSlash : first = '/'
      · subst isSlash
        unfold rootOf
        split <;> simp_all
      · simp [rootOf, isSlash]

/-- Only behind a slash can what comes next change the root of a text. -/
theorem rootOf_append {chars rest : List Char} (given : chars ≠ [])
    (apart : rest.head? = some '/' → chars.getLast? ≠ some '/') :
    rootOf (chars ++ rest) = rootOf chars := by
  match chars, given with
  | [first], _ =>
      by_cases isSlash : first = '/' <;> cases rest <;> simp_all [rootOf]
  | [first, second], _ =>
      by_cases isSlash : first = '/' <;> by_cases doubled : second = '/' <;> cases rest <;>
        simp_all [rootOf]
  | first :: second :: third :: others, _ =>
      by_cases isSlash : first = '/' <;> by_cases doubled : second = '/' <;>
        by_cases tripled : third = '/' <;> simp_all [rootOf]

/-- The text of a path behind that of another one. A text with a slash in front stands alone,
and a slash comes between the texts unless one is there. -/
def joinText (base file : String) : String :=
  if file.toList.head? = some '/' then file
  else if base = "" ∨ base.toList.getLast? = some '/' then base ++ file
  else base ++ "/" ++ file

/-- Joined texts spell joined paths. -/
theorem ofString_joinText (base file : String) :
    ofString (joinText base file) = (ofString base).join (ofString file) := by
  unfold joinText
  by_cases isAbsolute : file.toList.head? = some '/'
  · rw [if_pos isAbsolute, join, if_pos (isAbsolute_ofString_iff.mpr isAbsolute)]
  have isRelative : (ofString file).isAbsolute = false := by
    rwa [← Bool.not_eq_true, isAbsolute_ofString_iff]
  rw [if_neg isAbsolute, Settings.join_of_relative isRelative]
  by_cases isEmpty : base = ""
  · subst isEmpty
    have root : (ofString file).root = .none := by simpa [Path.isAbsolute] using isRelative
    rw [if_pos (.inl rfl), String.empty_append]
    exact congrArg (Path.mk · (Text.segments file)) root
  have given : base.toList ≠ [] := by simpa using isEmpty
  by_cases ends : base.toList.getLast? = some '/'
  · rw [if_pos (.inr ends), ofString, String.toList_append,
      rootOf_append given fun starts => absurd starts isAbsolute, Text.segments_append_of_ends ends]
    rfl
  · rw [if_neg (not_or.mpr ⟨isEmpty, ends⟩), ofString, Text.segments_append_slash,
      String.append_assoc, String.toList_append, rootOf_append given fun _ => ends]
    rfl

/-- A path of a file that is contained in a directory. It keeps the root and the components
of the directory and has behind them those of the file, with no double point among them. It is
what the joined text spells, and wherever it leads in a file system, it leads there from the
place of the directory. -/
structure IsContained (directory file : String) (path : Path) : Prop where
  root : path.root = (ofString directory).root
  components : path.components = (ofString directory).components ++ (ofString file).components
  noParents : ".." ∉ (ofString file).components
  spelled : path = ofString (joinText directory file)
  leads : ∀ (system : FileSystem) (location : FileSystem.Location),
    system.place path = .ok location → ∃ base,
      system.locate (FileSystem.startOf (ofString directory)) (ofString directory).components =
        .ok base ∧ location = base ++ (ofString file).components

end Path

namespace Settings

/-- A file that stays below the output directory is contained in it. -/
theorem isContained_of_staysBelow {directory file : String} (stays : StaysBelow file) :
    Path.IsContained directory file ((Path.ofString directory).join (Path.ofString file)) where
  root := by rw [join_of_relative stays.isRelative]
  components := by rw [join_of_relative stays.isRelative]
  noParents := stays.noParents
  spelled := (Path.ofString_joinText directory file).symm
  leads := by
    intro system location leads
    rw [join_of_relative stays.isRelative] at leads
    obtain ⟨-, -, leads⟩ := FileSystem.place_eq_ok_iff.mp leads
    obtain ⟨base, toBase, further⟩ := FileSystem.locate_append_eq_ok_iff.mp leads
    exact ⟨base, toBase, FileSystem.eq_append_of_locate stays.noParents further⟩

/-- No artifact of accepted settings escapes from the output directory, however the three
values are spelled. -/
theorem artifacts_contained {environment : Environment} {fields : List (String × Value)}
    {settings : Settings} {directory : String}
    (accepted : ofFields environment fields = .ok settings)
    (isText : settings.outputDir = .text directory) :
    ∃ output tree index, settings.outputPath = .ok output ∧ settings.treePath = .ok tree ∧
      settings.searchIndexPath = .ok index ∧ output = Path.ofString directory ∧
      Path.IsContained directory settings.treeFile tree ∧
      Path.IsContained directory settings.searchIndexFile index := by
  have promises := isAccepted_of_ofFields accepted
  have isOutput : settings.outputPath = .ok (Path.ofString directory) := by
    rw [outputPath, isText, pathOf]
  have isBelow (file : String) :
      settings.below file = .ok ((Path.ofString directory).join (Path.ofString file)) := by
    rw [below, isOutput]
    rfl
  exact ⟨_, _, _, isOutput, isBelow settings.treeFile, isBelow settings.searchIndexFile, rfl,
    isContained_of_staysBelow promises.treeFile,
    isContained_of_staysBelow promises.searchIndexFile⟩

/-- The output directory may lead up and be spelled with doubled slashes, as may the names of
the artifacts with lone points in them. -/
theorem spelled_artifacts_contained :
    ∃ settings, ofFields []
        [("output_dir", .text "//srv/../out//"), ("tree_file", .text "./a//t.js/"),
          ("search_index_file", .text "...//./y")] = .ok settings ∧
      settings.outputDir = .text "//srv/../out//" ∧
      ∃ tree index, settings.treePath = .ok tree ∧ settings.searchIndexPath = .ok index ∧
        tree = ⟨.doubleSlash, ["srv", "..", "out", "a", "t.js"]⟩ ∧
        index = ⟨.doubleSlash, ["srv", "..", "out", "...", "y"]⟩ := by
  obtain ⟨settings, accepted, isText, treeFile, indexFile⟩ :
      ∃ settings, ofFields []
          [("output_dir", .text "//srv/../out//"), ("tree_file", .text "./a//t.js/"),
            ("search_index_file", .text "...//./y")] = .ok settings ∧
        settings.outputDir = .text "//srv/../out//" ∧ settings.treeFile = "./a//t.js/" ∧
        settings.searchIndexFile = "...//./y" := ⟨_, rfl, rfl, rfl, rfl⟩
  obtain ⟨output, tree, index, -, isTree, isIndex, -, treeContained, indexContained⟩ :=
    artifacts_contained accepted isText
  have treeSpelled := treeContained.spelled
  have indexSpelled := indexContained.spelled
  rw [treeFile] at treeSpelled
  rw [indexFile] at indexSpelled
  exact ⟨settings, accepted, isText, tree, index, isTree, isIndex, treeSpelled.trans (by decide),
    indexSpelled.trans (by decide)⟩

end Settings

end DocAtlas
