import DocAtlas.Event
import DocAtlas.FileSystem
import DocAtlas.Settings

/-!
# Reporting

This module decides which events a run reports and where they go: the verbosity
gives the least level, and a log file, if one is named, receives the lines.
-/

namespace DocAtlas

/-- The least level that a verbosity reports. -/
def Verbosity.level : Verbosity → Level
  | .quiet => .error
  | .normal => .warning
  | .verbose => .debug

namespace Reporting

/-- The name that all reporters start with. -/
def rootName : String := "searchdoc"

/-- The reporter of a name: names that do not start like the root are put below it. -/
def reporterName : Option String → String
  | none => rootName
  | some name =>
    if rootName.toList.isPrefixOf name.toList then name else rootName ++ "." ++ name

/-- A path with every double point resolved against the component before it. Those
without one before them lead above the start, but not above the root. -/
def resolveParents (path : Path) : Path :=
  { path with
    components := path.components.foldl (fun taken component =>
      if component ≠ ".." then taken ++ [component]
      else if taken.all (· == "..") then if path.isAbsolute then taken else taken ++ [".."]
      else taken.dropLast) [] }

/-- Opens a log file for appending; gives its place. A misfit names the file in full,
below the working directory as it is shown. -/
def openFile (directory written : String) (system : FileSystem) :
    Checked (FileSystem × FileSystem.Location) :=
  let path := resolveParents (Path.ofString written)
  let shown := (resolveParents ((Path.ofString directory).join (Path.ofString written))).text
  match system.place path with
  | .error .nullInPath => reject .nullInPath
  | .error .nameTooLong => reject (.nameTooLong shown)
  | .error .notDirectory => reject (.notDirectory shown)
  | .error _ => reject (.noSuchFile shown)
  | .ok location =>
    match system.at? location with
    | some .directory => reject (.isDirectory shown)
    | some (.file ..) => .ok (system, location)
    | none => .ok (system.set location (.file FileSystem.artifactMode ""), location)

/-- What a run reports: the least level, and the place of the file that receives
it, if one does. -/
structure Setup where
  level : Level
  file : Option FileSystem.Location

/-- Sets reporting up for a verbosity and a log file, which need not be given. -/
def setup (directory : String) (verbosity : Verbosity) (logFile : Value)
    (system : FileSystem) : Checked (Setup × FileSystem) :=
  if !logFile.isGiven then .ok (⟨verbosity.level, none⟩, system)
  else
    match logFile with
    | .text written => do
      let (system, location) ← openFile directory written system
      pure (⟨verbosity.level, some location⟩, system)
    | other => reject (.notPath other.shape)

/-- The verbosity that a value names; a list or a record cannot be looked up. -/
def verbosityOf (value : Value) : Checked Verbosity :=
  match value with
  | .list _ => reject (.notKey .list)
  | .record _ => reject (.notKey .record)
  | value => Settings.checkVerbosity value

/-- Sets reporting up from named values: a verbosity and a log file, neither of
which need be there. -/
def setupFields (directory : String) (fields : List (String × Value))
    (system : FileSystem) : Checked (Setup × FileSystem) := do
  match fields.find? fun entry => !(["verbosity", "log_file"].contains entry.1) with
  | some entry => reject (.unknownArgument entry.1)
  | none => pure ()
  let word := (Value.lookup "verbosity" fields).getD (.text Verbosity.normal.word)
  setup directory (← verbosityOf word) (Value.field "log_file" fields) system

/-- The lines of the events that are reported, each behind its time. -/
def Setup.lines (setup : Setup) (time : String) (events : List Event) : List String :=
  (events.filter fun event => setup.level.number ≤ event.level.number).map fun event =>
    time ++ " " ++ event.line ++ "\n"

/-- Whether an event put another file into a place. -/
def replaces (system : FileSystem) (location : FileSystem.Location) : Event → Bool
  | .wrote path _ =>
    match system.place path with
    | .ok written => written == location
    | .error _ => false
  | _ => false

/-- Puts the lines of events into the log file, behind what stands there. The lines
are lost with their file when an artifact has taken its place. -/
def Setup.record (setup : Setup) (time : String) (events : List Event) (system : FileSystem) :
    FileSystem :=
  match setup.file with
  | none => system
  | some location =>
    match events.any (replaces system location), system.at? location with
    | false, some (.file mode text) =>
      system.set location (.file mode (text ++ String.join (setup.lines time events)))
    | _, _ => system

end Reporting

end DocAtlas
