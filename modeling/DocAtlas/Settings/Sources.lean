import DocAtlas.Settings
import DocAtlas.Text.LowerCase
import DocAtlas.Toml.Reader

/-!
# Sources of settings

This module merges the sources of settings, each above the one before: a global
file, a project file, a file named by the caller, the environment, and the
caller's own values. Only the value that is left for a setting is checked.
-/

namespace DocAtlas.Settings

/-- What stands where a settings file is looked for. -/
inductive Content where
  | text (source : String)
  | directory

/-- A settings file: what it is called, where it stands and what stands there. -/
structure File where
  label : String
  path : String
  content : Content

/-- The settings file of a user, in the home directory. -/
def File.ofHome (home : String) (content : Content) : File :=
  ⟨"global config", home ++ "/.searchdoc.toml", content⟩

/-- The settings file of a project, in its directory. -/
def File.ofProject (directory : String) (content : Content) : File :=
  ⟨"project config", directory ++ "/searchdoc.toml", content⟩

/-- The settings file at a path that the caller gives. -/
def File.ofPath (path : String) (content : Content) : File :=
  ⟨"config file", path, content⟩

/-- The table that a file holds, or the reason why it cannot be read. -/
def File.table (file : File) : Except String Toml.Table :=
  match file.content with
  | .text source => Toml.read source
  | .directory => .error (Misfit.isDirectory file.path).message

/-- A settings file that the caller may name. -/
inductive NamedFile where
  | absent
  | missing (path : String)
  | found (file : File)

/-- Everything that settings are taken from. Values of the caller that are null
count as not set. -/
structure Sources where
  globalFile : Option File := none
  projectFile : Option File := none
  namedFile : NamedFile := .absent
  environment : Environment := []
  overrides : List (String × Value) := []

/-- Fields on top of others. -/
def overlay (upper lower : List (String × Value)) : List (String × Value) :=
  upper.foldl (fun fields entry => Value.setField entry.1 entry.2 fields) lower

/-- The settings that a file holds: those of its own table when it has one, and
otherwise those at its top. -/
def File.fields (file : File) : Checked (List (String × Value)) :=
  match file.table with
  | .error reason => refuse (.settingsFileRefused file.label file.path reason)
  | .ok table =>
    match Value.lookup "searchdoc" table with
    | none => .ok table
    | some (.record inner) => .ok inner
    | some _ =>
      refuse (.settingsFileRefused file.label file.path "[searchdoc] must be a table")

/-- The settings of a file that need not be there. -/
def optionalFields : Option File → Checked (List (String × Value))
  | some file => file.fields
  | none => .ok []

/-- The settings of the file that the caller named. -/
def NamedFile.fields : NamedFile → Checked (List (String × Value))
  | .absent => .ok []
  | .missing path => refuse (.settingsFileMissing path)
  | .found file => file.fields

/-- The variable of a setting. -/
def variableOf (name : String) : String :=
  "SEARCHDOC_" ++ name.toUpper

/-- The truth value that a word stands for, in any case. -/
def truthOf? (word : String) : Option Bool :=
  let lowered := Text.lower word
  if ["true", "1", "yes", "on"].contains lowered then some true
  else if ["false", "0", "no", "off"].contains lowered then some false
  else none

/-- The value that a variable gives a setting: a truth value for the dry run, and
otherwise the text itself. -/
def variableValue (name written : String) : Checked Value :=
  if name = "dry_run" then
    match truthOf? written with
    | some truth => .ok (.bool truth)
    | none => refuse (.invalidSetting name (.text written)
        (variableOf name ++ ": expected true/false, got '" ++ written ++ "'"))
  else .ok (.text written)

/-- The settings that the environment gives, in the order of the settings. -/
def environmentFields (environment : Environment) :
    List String → Checked (List (String × Value))
  | [] => .ok []
  | name :: rest =>
    match environment.value? (variableOf name) with
    | none => environmentFields environment rest
    | some written => do
      let value ← variableValue name written
      let others ← environmentFields environment rest
      pure ((name, value) :: others)

/-- The names of the flags that stand for a verbosity, the stronger last. -/
def verbosityFlags : List (String × Verbosity) :=
  [("verbose", .verbose), ("quiet", .quiet)]

/-- Fields without a flag. A flag that is given sets the verbosity it stands for. -/
def withoutFlag (fields : List (String × Value)) (flag : String × Verbosity) :
    List (String × Value) :=
  let others := fields.filter fun entry => entry.1 ≠ flag.1
  if (Value.field flag.1 fields).isGiven then
    Value.setField "verbosity" (.text flag.2.word) others
  else others

/-- The caller's values with the flags replaced by the verbosity they stand for. -/
def withoutFlags (overrides : List (String × Value)) : List (String × Value) :=
  verbosityFlags.foldl withoutFlag overrides

/-- Whether a value of the caller is set. -/
def isSet : Value → Bool
  | .null => false
  | _ => true

/-- The caller's values that are set. -/
def setOverrides (overrides : List (String × Value)) : List (String × Value) :=
  (withoutFlags overrides).filter fun entry => isSet entry.2

/-- Settings are read from the file that the caller names, so the caller gives no
setting by this name. -/
def reservedName : String := "config_file"

/-- All sources merged, each above the one before. -/
def merge (sources : Sources) : Checked (List (String × Value)) := do
  let fromGlobal ← optionalFields sources.globalFile
  let fromProject ← optionalFields sources.projectFile
  let fromNamed ← sources.namedFile.fields
  let fromEnvironment ← environmentFields sources.environment names
  pure (overlay (setOverrides sources.overrides) (overlay fromEnvironment
    (overlay fromNamed (overlay fromProject (overlay fromGlobal [])))))

/-- The names that no setting has, in order. -/
def unknownNames (fields : List (String × Value)) : List String :=
  ((fields.map (·.1)).filter fun name => !names.contains name).mergeSort (· ≤ ·)

/-- The settings that all sources give together. -/
def ofSources (sources : Sources) : Checked Settings := do
  if sources.overrides.any fun entry => entry.1 == reservedName then
    reject (.unknownArgument reservedName)
  else pure ()
  let fields ← merge sources
  match unknownNames fields with
  | [] => ofFields sources.environment fields
  | unknown => refuse (.unknownSettings unknown)

end DocAtlas.Settings
