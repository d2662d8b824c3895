import DocAtlas.Command.Run
import DocAtlas.Tree.OpenBranch
import Std.Time.Format

/-!
# Program

This module runs a command line on the real file system. It observes the places
that a run may touch, lets `Request.run` decide, and carries the difference out.
-/

namespace DocAtlas.Program

/-- The usage of the program. -/
def usage : String :=
  "Usage: searchdoc [--version] build|tree|search MANIFEST [QUERY] [OPTIONS]"

/-- The variables of the environment that settings depend on. -/
def settingVariables : List String :=
  Settings.names.map Settings.variableOf ++
    ["HORO_PROJECT_NAME", "HORO_BADGE_VERSION", "HORO_PROJECT_VERSION"]

/-- The environment, as far as settings depend on it. -/
def environment : IO Environment :=
  settingVariables.filterMapM fun name => do
    let value ← IO.getEnv name
    pure (value.map fun value => (name, value))

/-- The number of the trouble that a directory is read as a file. -/
def directoryTrouble : UInt32 := 21

/-- The time, to the second. -/
def time : IO String := do
  let now ← Std.Time.PlainDateTime.now
  pure (now.format "uuuu-MM-dd HH:mm:ss")

/-- What stands at a path. -/
def look (path : String) : IO (Option FileSystem.Entry) := do
  match ← (IO.FS.readBinFile path).toBaseIO with
  | .ok bytes =>
    match String.fromUTF8? bytes with
    | some text => pure (some (.file FileSystem.artifactMode text))
    | none => throw (IO.userError (path ++ ": " ++ Misfit.undecodable.message))
  | .error (.inappropriateType _ trouble _) =>
    pure (if trouble = directoryTrouble then some .directory else none)
  | .error _ => pure none

/-- Observes what stands on the way along a path and at its end. -/
def observe (system : FileSystem) (path : Path) : IO FileSystem :=
  (beginnings path.components).foldlM (fun system components => do
    match ← look (Path.text ⟨path.root, components⟩) with
    | none => pure system
    | some entry =>
      match system.locate (FileSystem.startOf path) components with
      | .ok location =>
        pure (if FileSystem.isAnchor location then system else system.set location entry)
      | .error _ => pure system) system

/-- The paths that an invocation names. -/
def namedPaths (invocation : Invocation) : List Path :=
  let output := match invocation.command with
    | .build output _ _ => output.toList
    | _ => []
  ([invocation.manifest, "searchdoc.toml"] ++ invocation.settingsFile.toList ++ output).map
    Path.ofString

/-- The paths that settings name. -/
def settingsPaths (settings : Settings) : List Path :=
  [settings.treePath, settings.searchIndexPath, Settings.pathOf settings.logFile].filterMap
    Except.toOption

/-- A place as the program spells it to the system. -/
def spelling (location : FileSystem.Location) : String :=
  match location with
  | "/" :: rest => "/" ++ Text.joinSegments rest
  | _ => FileSystem.Location.text location

/-- Brings one place of the real file system to what a run left there. -/
def carryOut (entry : FileSystem.Location × FileSystem.Entry) : IO Unit := do
  let path := spelling entry.1
  match entry.2 with
  | .directory => IO.FS.createDirAll path
  | .file _ text =>
    IO.FS.writeFile (path ++ ".tmp") text
    IO.FS.rename (path ++ ".tmp") path

mutual

/-- Prints an outline behind a margin. -/
def printOutline (margin : String) : Outline → IO Unit
  | .mk label children => do
    IO.println (margin ++ label)
    printOutlines (margin ++ "  ") children

/-- Prints outlines in order behind a margin. -/
def printOutlines (margin : String) : List Outline → IO Unit
  | [] => pure ()
  | outline :: rest => do
    printOutline margin outline
    printOutlines margin rest

end

/-- Prints one piece. -/
def print : Printed → IO Unit
  | .line text => IO.println text
  | .table title header rows => do
    unless title.isEmpty do IO.println title
    (header.toList ++ rows).forM fun row => IO.println (String.intercalate "  " row)
  | .outline root => printOutline "" root

/-- Runs an invocation on the real file system. -/
def invoke (invocation : Invocation) : IO UInt32 := do
  let home := (← IO.getEnv "HOME").getD ""
  let userSettings ← look (home ++ "/.searchdoc.toml")
  let surroundings : Surroundings :=
    { home
      directory := (← IO.getEnv "PWD").getD "."
      userSettings := userSettings.map Invocation.contentOf
      environment := ← environment
      time := ← time }
  let named ← (namedPaths invocation).foldlM observe FileSystem.empty
  match invocation.checkPaths named with
  | .error misuse =>
    IO.eprintln misuse.message
    pure Request.misuseStatus.toUInt32
  | .ok () =>
    let settings := (Settings.ofSources (invocation.sources surroundings named)).toOption
    let before ← ((settings.map settingsPaths).getD []).foldlM observe named
    let (after, report) := invocation.run surroundings before
    (after.entries.reverse.filter fun entry => before.at? entry.1 != some entry.2).forM carryOut
    report.printed.forM print
    pure report.status.toUInt32

end DocAtlas.Program

open DocAtlas in
/-- Runs the command line of the program. -/
def main (arguments : List String) : IO UInt32 := do
  match Request.read arguments with
  | .error misuse =>
    IO.eprintln misuse.message
    pure Request.misuseStatus.toUInt32
  | .ok .help =>
    IO.println Program.usage
    pure 0
  | .ok .version =>
    IO.println ("searchdoc version " ++ versionNumber)
    pure 0
  | .ok (.invoke invocation) => Program.invoke invocation
