import DocAtlas.Fault

/-!
# Settings

This module holds the settings of a run, their defaults, and the rules that a
setting has to keep. The rules are applied in one order, so of two wrong settings
the same one is always reported. Both artifacts are named relative to the output
directory.
-/

namespace DocAtlas

/-- Variables of the environment by name. -/
abbrev Environment := List (String × String)

/-- The value of a variable, if it is set. -/
def Environment.value? (environment : Environment) (name : String) : Option String :=
  (environment.find? fun entry => entry.1 == name).map (·.2)

/-- How much a run reports. -/
inductive Verbosity where
  | quiet
  | normal
  | verbose
deriving DecidableEq, Repr

/-- The word for a verbosity. -/
def Verbosity.word : Verbosity → String
  | .quiet => "quiet"
  | .normal => "normal"
  | .verbose => "verbose"

/-- The verbosity that a word names. -/
def Verbosity.ofWord? : String → Option Verbosity
  | "quiet" => some .quiet
  | "normal" => some .normal
  | "verbose" => some .verbose
  | _ => none

/-- The settings of a run. Settings that no rule narrows to texts are dynamic
values, as their sources give them. -/
structure Settings where
  outputDir : Value
  treeFile : String
  searchIndexFile : String
  treeVariable : String
  filesLabel : Value
  title : Value
  mainPage : Value
  dryRun : Value
  verbosity : Verbosity
  logFile : Value

namespace Settings

/-- The title of a site: the project and its version, as far as the environment
names them. -/
def defaultTitle (environment : Environment) : String :=
  let given (name : String) : String := (environment.value? name).getD ""
  let badge := given "HORO_BADGE_VERSION"
  let version := if badge = "" then given "HORO_PROJECT_VERSION" else badge
  let parts := [given "HORO_PROJECT_NAME", version, "API documentation"]
  String.intercalate " " (parts.filter (· ≠ ""))

/-- Every setting with its default value, in order. -/
def defaults (environment : Environment) : List (String × Value) :=
  [("output_dir", .text "doc"), ("tree_file", .text "panel/tree.js"),
    ("search_index_file", .text "js/search-index.js"), ("tree_variable", .text "tree"),
    ("files_label", .text "files"), ("title", .text (defaultTitle environment)),
    ("main_page", .null), ("dry_run", .bool false), ("verbosity", .text "normal"),
    ("log_file", .null)]

/-- The names of the settings, in order. -/
def names : List String :=
  (defaults []).map (·.1)

/-- Checks that a setting is given. -/
def checkGiven (key : String) (value : Value) : Checked Unit :=
  if value.isGiven then .ok () else refuse (.invalidSetting key value "must not be empty")

/-- Checks that a setting names a file below the output directory. -/
def checkRelative (key : String) (value : Value) : Checked String := do
  checkGiven key value
  match value with
  | .text written =>
    let path := Path.ofString written
    if path.isAbsolute || path.components.contains ".." then
      refuse (.invalidSetting key value "must be relative to output_dir")
    else pure written
  | other => reject (.notPath other.shape)

/-- Whether a character may start an identifier of a script. -/
def startsIdentifier (c : Char) : Bool :=
  c.isAlpha || c == '_' || c == '$'

/-- Whether a character may stand in an identifier of a script. -/
def continuesIdentifier (c : Char) : Bool :=
  startsIdentifier c || c.isDigit

/-- Whether characters are an identifier, with at most one line end behind it. -/
def isIdentifier (chars : List Char) : Bool :=
  match if chars.getLast? = some '\n' then chars.dropLast else chars with
  | c :: rest => startsIdentifier c && rest.all continuesIdentifier
  | [] => false

/-- Checks that a setting is an identifier of a script. -/
def checkIdentifier (key : String) (value : Value) : Checked String :=
  match value with
  | .text written =>
    if isIdentifier written.toList then .ok written
    else refuse (.invalidSetting key value "must be a JavaScript identifier")
  | other => reject (.notText other.shape)

/-- The verbosity that a value names. -/
def verbosityNamed? : Value → Option Verbosity
  | .text word => Verbosity.ofWord? word
  | _ => none

/-- Checks that a setting names a verbosity. Another value is refused by its text,
which it has to have. -/
def checkVerbosity (value : Value) : Checked Verbosity :=
  match verbosityNamed? value with
  | some verbosity => .ok verbosity
  | none =>
    if value.isWritable then
      refuse (.invalidSetting "verbosity" value "expected quiet, normal or verbose")
    else reject (.tooManyDigits none)

/-- The value that a setting has: the one among the fields, or its default. -/
def valueOf (environment : Environment) (fields : List (String × Value)) (key : String) : Value :=
  (Value.lookup key fields).getD (Value.field key (defaults environment))

/-- The settings that named values give, with defaults for the rest. -/
def ofFields (environment : Environment) (fields : List (String × Value)) : Checked Settings := do
  match fields.find? fun entry => !names.contains entry.1 with
  | some entry => reject (.unknownArgument entry.1)
  | none => pure ()
  let value := valueOf environment fields
  let outputDir := value "output_dir"
  checkGiven "output_dir" outputDir
  let treeFile ← checkRelative "tree_file" (value "tree_file")
  let searchIndexFile ← checkRelative "search_index_file" (value "search_index_file")
  if treeFile = searchIndexFile then
    refuse (.invalidSetting "search_index_file" (.text searchIndexFile)
      "must differ from tree_file")
  else pure ()
  let treeVariable ← checkIdentifier "tree_variable" (value "tree_variable")
  let filesLabel := value "files_label"
  checkGiven "files_label" filesLabel
  let verbosity ← checkVerbosity (value "verbosity")
  pure
    { outputDir, treeFile, searchIndexFile, treeVariable, filesLabel
      title := value "title"
      mainPage := value "main_page"
      dryRun := value "dry_run"
      verbosity
      logFile := value "log_file" }

/-- Every setting with its value, in order. -/
def fields (settings : Settings) : List (String × Value) :=
  [("output_dir", settings.outputDir), ("tree_file", .text settings.treeFile),
    ("search_index_file", .text settings.searchIndexFile),
    ("tree_variable", .text settings.treeVariable), ("files_label", settings.filesLabel),
    ("title", settings.title), ("main_page", settings.mainPage), ("dry_run", settings.dryRun),
    ("verbosity", .text settings.verbosity.word), ("log_file", settings.logFile)]

/-- The path that a value spells. -/
def pathOf : Value → Checked Path
  | .text written => .ok (Path.ofString written)
  | other => reject (.notPath other.shape)

/-- The output directory. -/
def outputPath (settings : Settings) : Checked Path :=
  pathOf settings.outputDir

/-- A file below the output directory. -/
def below (settings : Settings) (file : String) : Checked Path := do
  let base ← settings.outputPath
  pure (base.join (Path.ofString file))

/-- Where the navigation tree goes. -/
def treePath (settings : Settings) : Checked Path :=
  settings.below settings.treeFile

/-- Where the search index goes. -/
def searchIndexPath (settings : Settings) : Checked Path :=
  settings.below settings.searchIndexFile

end Settings

end DocAtlas
