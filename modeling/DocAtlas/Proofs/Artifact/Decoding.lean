import DocAtlas.Artifact
import DocAtlas.Proofs.Json.RoundTrip
import DocAtlas.Proofs.Settings.Acceptance

/-!
# Decoding artifacts

This module shows that what an artifact was made from is read back from its text. The
script is cut at its first assignment and the module at its line ends. Neither can stand
elsewhere: an identifier holds no equals sign, and JSON holds no line end.
-/

namespace DocAtlas

namespace Text

/-- What stands before the first place where a mark stands in a text, and what stands
behind it. -/
def cut? (mark : List Char) : List Char → Option (List Char × List Char)
  | [] => none
  | c :: rest =>
    if mark.isPrefixOf (c :: rest) then some ([], (c :: rest).drop mark.length)
    else (cut? mark rest).map fun parts => (c :: parts.1, parts.2)

/-- The sign that assigns a value. -/
def assignment : List Char := [' ', '=', ' ']

/-- A text is cut at the first assignment behind a part without equals signs. -/
theorem cut?_assignment {before : List Char} (noEquals : '=' ∉ before) (behind : List Char) :
    cut? assignment (before ++ assignment ++ behind) = some (before, behind) := by
  induction before with
  | nil => rfl
  | cons c rest inductionHypothesis =>
      rw [List.mem_cons, not_or] at noEquals
      have notHere : assignment.isPrefixOf (c :: (rest ++ assignment ++ behind)) = false := by
        have second : ('=' :: ' ' :: []).isPrefixOf (rest ++ assignment ++ behind) = false := by
          cases rest with
          | nil => rfl
          | cons d others =>
              have differs : ('=' == d) = false := by
                rw [beq_eq_false_iff_ne]
                exact fun same => noEquals.2 (same ▸ List.mem_cons_self)
              show (('=' == d) && _) = false
              rw [differs, Bool.false_and]
        show ((' ' == c) && _) = false
        rw [second, Bool.and_false]
      rw [List.cons_append, List.cons_append, cut?, if_neg (by rw [notHere]; exact nofun),
        inductionHypothesis noEquals.2]
      rfl

/-- A text whose two lines end behind a semicolon each. -/
structure IsTwoStatements (source first second : List Char) : Prop where
  lines : source.splitOn '\n' = [first ++ [';'], second ++ [';'], []]
  lineEnds : source.count '\n' = 2
  isEnded : ∀ before behind, source = before ++ '\n' :: behind → before.getLast? = some ';'

/-- A line end of a text stands right behind its first line or further behind. -/
theorem eq_or_exists_of_append_eq {line rest before behind : List Char} (isLine : '\n' ∉ line)
    (same : line ++ '\n' :: rest = before ++ '\n' :: behind) :
    before = line ∨ ∃ more, rest = more ++ '\n' :: behind ∧ before = line ++ '\n' :: more := by
  rcases List.append_eq_append_iff.mp same with ⟨more, isBefore, isRest⟩ | ⟨more, isLong, isRest⟩
  · cases more with
    | nil => exact .inl (by rw [isBefore, List.append_nil])
    | cons c more =>
        obtain ⟨rfl, further⟩ := List.cons.inj isRest
        exact .inr ⟨more, further, isBefore⟩
  · cases more with
    | nil => exact .inl (by rw [isLong, List.append_nil])
    | cons c more =>
        obtain ⟨rfl, -⟩ := List.cons.inj isRest
        exact absurd (by rw [isLong]; simp) isLine

/-- Two lines that hold no line end are two statements once semicolons end them. -/
theorem isTwoStatements {first second : List Char} (isFirst : '\n' ∉ first)
    (isSecond : '\n' ∉ second) :
    IsTwoStatements (first ++ ';' :: '\n' :: (second ++ ';' :: '\n' :: [])) first second := by
  have asLines : first ++ ';' :: '\n' :: (second ++ ';' :: '\n' :: []) =
      (first ++ [';']) ++ '\n' :: ((second ++ [';']) ++ '\n' :: []) := by simp
  have firstLine : '\n' ∉ first ++ [';'] := by simp [isFirst]
  have secondLine : '\n' ∉ second ++ [';'] := by simp [isSecond]
  rw [asLines]
  refine ⟨?_, ?_, ?_⟩
  · rw [List.splitOn_append_cons_self_of_not_mem firstLine,
      List.splitOn_append_cons_self_of_not_mem secondLine]
    rfl
  · simp [List.count_eq_zero_of_not_mem isFirst, List.count_eq_zero_of_not_mem isSecond]
  · intro before behind same
    rcases eq_or_exists_of_append_eq firstLine same with rfl | ⟨more, further, rfl⟩
    · exact List.getLast?_concat
    · rcases eq_or_exists_of_append_eq secondLine further with rfl | ⟨last, isOver, -⟩
      · rw [← List.cons_append, ← List.append_assoc]
        exact List.getLast?_concat
      · exact absurd isOver (by simp)

end Text

/-! ### Wire forms -/

/-- A text is written in a form that reads back. -/
theorem Value.isFaithful_of_isText {value : Value} (isText : value.isText = true) :
    Json.isFaithful value = true := by
  cases value with
  | text content => rfl
  | _ => exact nomatch isText

mutual

/-- Whether all that a node and the nodes below it show are texts. -/
def Node.isTextual : Node → Bool
  | .entity name path _ children => name.isText && path.isText && Node.areTextual children
  | .group label children => label.isText && Node.areTextual children
  | .page name _ => name.isText

/-- Whether all that the nodes of a forest show are texts. -/
def Node.areTextual : List Node → Bool
  | [] => true
  | node :: rest => node.isTextual && Node.areTextual rest

end

/-- Whether all that a record holds are texts. -/
def SearchRecord.isTextual : SearchRecord → Bool
  | .entity _ _ path => path.isText
  | .method _ _ summary anchorUrl => summary.isText && anchorUrl.isText

mutual

/-- The wire form of a textual node reads back. -/
theorem Node.isFaithful_wire : ∀ node : Node, node.isTextual = true →
    Json.isFaithful node.wire = true
  | .entity name path suffix children => by
      intro textual
      rw [Node.isTextual, Bool.and_eq_true_iff, Bool.and_eq_true_iff] at textual
      obtain ⟨⟨isName, isPath⟩, areTextual⟩ := textual
      simp [Node.wire, Json.isFaithful, Json.areFaithful, Value.isFaithful_of_isText isName,
        Value.isFaithful_of_isText isPath, Node.areFaithful_wires children areTextual]
  | .group label children => by
      intro textual
      rw [Node.isTextual, Bool.and_eq_true_iff] at textual
      obtain ⟨isLabel, areTextual⟩ := textual
      simp [Node.wire, Json.isFaithful, Json.areFaithful, Value.isFaithful_of_isText isLabel,
        Node.areFaithful_wires children areTextual]
  | .page name url => by
      intro isName
      rw [Node.isTextual] at isName
      simp [Node.wire, Json.isFaithful, Json.areFaithful, Value.isFaithful_of_isText isName]

/-- The wire form of nodes that show texts is a value that JSON holds as it is. -/
theorem Node.areFaithful_wires : ∀ nodes : List Node, Node.areTextual nodes = true →
    Json.areFaithful (Node.wires nodes) = true
  | [] => fun _ => rfl
  | node :: rest => by
      intro textual
      rw [Node.areTextual, Bool.and_eq_true_iff] at textual
      rw [Node.wires, Json.areFaithful, Node.isFaithful_wire node textual.1,
        Node.areFaithful_wires rest textual.2, Bool.and_true]

end

/-- The wire form of a textual record reads back. -/
theorem SearchRecord.isFaithful_wire {record : SearchRecord}
    (textual : record.isTextual = true) : Json.isFaithful record.wire = true := by
  cases record with
  | entity type fullName path =>
      simp [SearchRecord.wire, Json.isFaithful, Json.areFaithfulFields,
        Value.isFaithful_of_isText textual]
  | method owner name summary anchorUrl =>
      obtain ⟨isSummary, isUrl⟩ := Bool.and_eq_true_iff.mp textual
      simp [SearchRecord.wire, Json.isFaithful, Json.areFaithfulFields,
        Value.isFaithful_of_isText isSummary, Value.isFaithful_of_isText isUrl]

/-- The wire form of an index of textual records reads back. -/
theorem SearchIndex.isFaithful_wire {index : SearchIndex}
    (textual : ∀ record ∈ index.records, record.isTextual = true) :
    Json.isFaithful index.wire = true := by
  refine Json.areFaithful_iff.mpr fun item among => ?_
  obtain ⟨record, isRecord, rfl⟩ := List.mem_map.mp among
  exact SearchRecord.isFaithful_wire (textual record isRecord)

/-- The wire form of a name index is a value that JSON holds as it is, once its positions
can be written. -/
theorem NameIndex.isFaithful_wire {names : NameIndex Int}
    (areWritable : ∀ entry ∈ names.entries, Decimal.isWritable entry.2 = true) :
    Json.isFaithful names.wire = true := by
  refine Json.areFaithful_iff.mpr fun item among => ?_
  obtain ⟨wired, isWired, rfl⟩ := List.mem_map.mp among
  obtain ⟨entry, isEntry, rfl⟩ := List.mem_map.mp isWired
  have isWritable := areWritable entry (Array.mem_toList_iff.mp isEntry)
  simp [Json.isFaithful, Json.areFaithful, isWritable]

/-! ### Artifacts -/

/-- What is written of a faithful value stands on one line. -/
theorem not_lineEnd_of_faithful {value : Value} (faithful : Json.isFaithful value = true) :
    '\n' ∉ Json.write value := fun among =>
  absurd (Json.not_control_of_mem_write value '\n' faithful among) (by decide)

/-- An identifier holds no equals sign, also where a line end stands behind it. -/
theorem Settings.not_equals_of_isIdentifier {chars : List Char}
    (identifier : Settings.isIdentifier chars = true) : '=' ∉ chars := by
  have noneInside {c : Char} {rest : List Char}
      (isNamed : (startsIdentifier c && rest.all continuesIdentifier) = true) :
      '=' ∉ c :: rest := by
    obtain ⟨starts, continues⟩ := Bool.and_eq_true_iff.mp isNamed
    intro among
    rcases List.mem_cons.mp among with rfl | isBehind
    · exact absurd starts (by decide)
    · exact absurd (List.all_eq_true.mp continues '=' isBehind) (by decide)
  unfold Settings.isIdentifier at identifier
  by_cases isEnded : chars.getLast? = some '\n'
  · rw [if_pos isEnded] at identifier
    obtain ⟨start, rfl⟩ := List.getLast?_eq_some_iff.mp isEnded
    rw [List.dropLast_concat] at identifier
    intro among
    rcases List.mem_append.mp among with isInside | isLast
    · cases start with
      | nil => exact absurd isInside List.not_mem_nil
      | cons c rest => exact noneInside identifier isInside
    · exact absurd isLast (by decide)
  · rw [if_neg isEnded] at identifier
    cases chars with
    | nil => exact List.not_mem_nil
    | cons c rest => exact noneInside identifier

/-- The script is cut at its first assignment into the variable and the JSON of the forest. -/
theorem cut?_treeScript {nodes : List Node} {assigned : String}
    (identifier : Settings.isIdentifier assigned.toList = true) :
    Text.cut? Text.assignment (treeScript nodes assigned).toList =
      some (("var " ++ assigned).toList, Json.write (.list (Node.wires nodes))) := by
  have asChars : (treeScript nodes assigned).toList =
      ("var " ++ assigned).toList ++ Text.assignment ++ Json.write (.list (Node.wires nodes)) := by
    unfold treeScript Node.dump Json.compact
    rw [String.toList_append, String.toList_append]
    exact congrArg (("var " ++ assigned).toList ++ Text.assignment ++ ·) String.toList_ofList
  have noEquals : '=' ∉ ("var " ++ assigned).toList := by
    rw [String.toList_append, List.mem_append, not_or]
    exact ⟨by decide, Settings.not_equals_of_isIdentifier identifier⟩
  rw [asChars, Text.cut?_assignment noEquals]

/-- The module has two statements, which carry the JSON of the records and of the names. -/
theorem isTwoStatements_searchModule {index : SearchIndex}
    (records : Json.isFaithful index.wire = true)
    (names : Json.isFaithful index.names.wire = true) :
    Text.IsTwoStatements (searchModule index).toList
      ("export default ".toList ++ Json.write index.wire)
      ("export const nameIndex = ".toList ++ Json.write index.names.wire) := by
  have asChars : (searchModule index).toList =
      ("export default ".toList ++ Json.write index.wire) ++ ';' :: '\n' ::
        (("export const nameIndex = ".toList ++ Json.write index.names.wire) ++
          ';' :: '\n' :: []) := by
    unfold searchModule SearchIndex.dumpRecords SearchIndex.dumpNames Json.compact
    simp only [String.toList_append, String.toList_ofList, List.append_assoc]
    rfl
  rw [asChars]
  apply Text.isTwoStatements
  · rw [List.mem_append, not_or]
    exact ⟨by decide, not_lineEnd_of_faithful records⟩
  · rw [List.mem_append, not_or]
    exact ⟨by decide, not_lineEnd_of_faithful names⟩

/-- The forest, the records and the names are read back from the artifacts of any forest and
any search index of texts, with any variable that settings accept. -/
theorem artifacts_decode {environment : Environment} {fields : List (String × Value)}
    {settings : Settings} (accepted : Settings.ofFields environment fields = .ok settings)
    {nodes : List Node} (textual : Node.areTextual nodes = true) {index : SearchIndex}
    (recordsTextual : ∀ record ∈ index.records, record.isTextual = true)
    (positionsWritable : ∀ entry ∈ index.names.entries, Decimal.isWritable entry.2 = true) :
    (∃ forest, Text.cut? Text.assignment (treeScript nodes settings.treeVariable).toList =
        some (("var " ++ settings.treeVariable).toList, forest) ∧
      Json.readChars forest = .ok (.list (Node.wires nodes))) ∧
    ∃ records names, Text.IsTwoStatements (searchModule index).toList
        ("export default ".toList ++ records) ("export const nameIndex = ".toList ++ names) ∧
      Json.readChars records = .ok index.wire ∧ Json.readChars names = .ok index.names.wire := by
  have identifier := (Settings.isAccepted_of_ofFields accepted).treeVariable
  have forest : Json.isFaithful (.list (Node.wires nodes)) = true :=
    Node.areFaithful_wires nodes textual
  have records := SearchIndex.isFaithful_wire recordsTextual
  have names := NameIndex.isFaithful_wire positionsWritable
  exact ⟨⟨_, cut?_treeScript identifier, Json.readChars_write forest⟩,
    _, _, isTwoStatements_searchModule records names, Json.readChars_write records,
    Json.readChars_write names⟩

/-- A forest whose names look like the frame of an artifact. -/
def trickyForest : List Node :=
  [.entity (.text "a = \"b\";\n") (.text "a\\b.html") " < c" [.page (.text "\t = ") "\r;"],
    .group (.text "files;\n") []]

/-- A search index whose texts do. -/
def trickyIndex : SearchIndex where
  records := [.entity "class" ";\nexport default [];" (.text "\"\\\""),
    .method "é" "\u2028" (.text "\x01;\n") (.text "#")]
  names := NameIndex.ofEntries [("];\n", 0), ("é", 1)]

/-- The tricky artifacts are read back. -/
theorem tricky_artifacts_decode :
    ∃ settings, Settings.ofFields [] [("tree_variable", .text "$tree\n")] = .ok settings ∧
      Node.areTextual trickyForest = true ∧
      (∀ record ∈ trickyIndex.records, record.isTextual = true) ∧
      (∀ entry ∈ trickyIndex.names.entries, Decimal.isWritable entry.2 = true) ∧
      (∃ forest, Text.cut? Text.assignment
          (treeScript trickyForest settings.treeVariable).toList =
            some (("var " ++ settings.treeVariable).toList, forest) ∧
        Json.readChars forest = .ok (.list (Node.wires trickyForest))) ∧
      ∃ records names, Text.IsTwoStatements (searchModule trickyIndex).toList
          ("export default ".toList ++ records) ("export const nameIndex = ".toList ++ names) ∧
        Json.readChars records = .ok trickyIndex.wire ∧
        Json.readChars names = .ok trickyIndex.names.wire := by
  obtain ⟨settings, accepted⟩ : ∃ settings,
      Settings.ofFields [] [("tree_variable", .text "$tree\n")] = .ok settings := ⟨_, rfl⟩
  have textual : Node.areTextual trickyForest = true := by decide
  have recordsTextual : ∀ record ∈ trickyIndex.records, record.isTextual = true := by
    simp [trickyIndex, SearchRecord.isTextual, Value.isText]
  have positionsWritable :
      ∀ entry ∈ trickyIndex.names.entries, Decimal.isWritable entry.2 = true := by
    have small : Decimal.isWritable 0 = true ∧ Decimal.isWritable 1 = true := by decide +kernel
    simp [trickyIndex, NameIndex.ofEntries, small.1, small.2]
  exact ⟨settings, accepted, textual, recordsTextual, positionsWritable,
    artifacts_decode accepted textual recordsTextual positionsWritable⟩

end DocAtlas
