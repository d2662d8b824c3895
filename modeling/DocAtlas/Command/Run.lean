import DocAtlas.Command.Printout
import DocAtlas.Command.Request
import DocAtlas.Reporting
import DocAtlas.Manifest.Source
import DocAtlas.Settings.Sources

/-!
# Command runs

This module carries out a command line: it reads the settings, sets reporting up,
loads the manifest and does what the command asks for. A failure is reported in
one line and gives the run its status.
-/

namespace DocAtlas

/-- The version of the program. -/
def versionNumber : String := "0.1.0"

/-- Where and when a command runs: how the home directory and the working directory
are shown, the settings file of the user, the environment, the time as the log file
gives it, and the console. -/
structure Surroundings where
  home : String
  directory : String
  userSettings : Option Settings.Content
  environment : Environment
  time : String
  console : Console := .markup

/-- What a run leaves behind besides files: its status, what it printed, and the
level it reported at. -/
structure Report where
  status : Nat
  printed : List Printed
  level : Option Level

namespace Report

/-- The report of a run that set up no reporting. -/
def quiet (status : Nat) (printed : List Printed) : Report :=
  ⟨status, printed, none⟩

/-- The line that reports a failure. -/
def failureLine (console : Console) (failure : Failure) : List Printed :=
  (Printout.line console ("[red]Error:[/red] " ++ console.escape failure.text)).toList

/-- The report of a run that failed before reporting was set up. -/
def early (console : Console) (failure : Failure) : Report :=
  quiet failure.exitCode (failureLine console failure)

/-- The event that notes a failure. -/
def noteOf (word : CommandWord) : Failure → Event
  | .fault _ => .aborted word.text
  | .misfit _ => .unexpected word.text

/-- What is printed of a printout: the pieces up to the first that cannot be. -/
def printable (printout : Printout) : List Printed :=
  (printout.takeWhile Option.isSome).filterMap id

/-- The events of the work of a command, with the note of its failure. -/
def eventsOf {α : Type} (word : CommandWord) (work : Noted α) : List Event :=
  match work.outcome with
  | .ok _ => work.events
  | .error failure => work.events ++ [noteOf word failure]

/-- The report of the work of a command. A piece that cannot be printed ends the run. -/
def ofOutcome (console : Console) (level : Level) : Checked Printout → Report
  | .ok printout =>
    ⟨if printout.all Option.isSome then 0 else 1, printable printout, some level⟩
  | .error failure => ⟨failure.exitCode, failureLine console failure, some level⟩

end Report

namespace Invocation

/-- The settings that the switches of an invocation give. -/
def overrides (invocation : Invocation) : List (String × Value) :=
  let flag (name : String) (isSet : Bool) : List (String × Value) :=
    if isSet then [(name, .bool true)] else []
  let own :=
    match invocation.command with
    | .build output isDry isQuiet =>
      (output.toList.map fun written =>
        ("output_dir", Value.text (Path.ofString written).text)) ++
        flag "dry_run" isDry ++ flag "quiet" isQuiet
    | _ => []
  own ++ flag "verbose" invocation.isVerbose

/-- What a settings file holds when an entry stands in its place. -/
def contentOf : FileSystem.Entry → Settings.Content
  | .directory => .directory
  | .file _ text => .text text

/-- The settings file of the project, in the working directory. -/
def projectFile (surroundings : Surroundings) (system : FileSystem) : Option Settings.File :=
  (system.entry? (Path.ofString "searchdoc.toml")).map fun entry =>
    .ofProject surroundings.directory (contentOf entry)

/-- The settings file that an invocation names. -/
def namedFile (invocation : Invocation) (system : FileSystem) : Settings.NamedFile :=
  match invocation.settingsFile with
  | none => .absent
  | some written =>
    let path := Path.ofString written
    match system.entry? path with
    | some entry => .found (.ofPath path.text (contentOf entry))
    | none => .missing path.text

/-- Everything that the settings of an invocation are taken from. -/
def sources (invocation : Invocation) (surroundings : Surroundings) (system : FileSystem) :
    Settings.Sources :=
  { globalFile := surroundings.userSettings.map (.ofHome surroundings.home)
    projectFile := projectFile surroundings system
    namedFile := invocation.namedFile system
    environment := surroundings.environment
    overrides := invocation.overrides }

/-- Loads the manifest of an invocation. -/
def load (invocation : Invocation) (system : FileSystem) : Noted Collection :=
  let path := Path.ofString invocation.manifest
  match system.entry? path with
  | some (.file _ text) => Manifest.loadText path text
  | _ => .ofChecked (reject (.noSuchFile path.text))

/-- Does what an invocation asks for, and says what is to be printed on a console. -/
def work (invocation : Invocation) (console : Console) (settings : Settings)
    (system : FileSystem) : FileSystem × Noted Printout :=
  let loaded := invocation.load system
  match invocation.command with
  | .build .. =>
    match loaded.outcome with
    | .error failure => (system, ⟨loaded.events, .error failure⟩)
    | .ok collection =>
      let (system, run) := Generation.run settings collection system
      (system, do
        Noted.noteAll loaded.events
        let (generation, written) ← run
        pure (Printout.ofGeneration console settings collection generation written))
  | .tree =>
    (system, do
      let collection ← loaded
      let nodes ← Generation.buildTree collection.graph collection.classes collection.files
        settings.filesLabel
      pure (Printout.ofTree console settings.title nodes))
  | .search query limit =>
    (system, do
      let collection ← loaded
      let index ← Generation.buildIndex collection.graph collection.classes
      let hits ← index.search query (some limit)
      pure (Printout.ofHits console query hits))

/-- Runs an invocation whose paths have been checked. -/
def run (invocation : Invocation) (surroundings : Surroundings) (system : FileSystem) :
    FileSystem × Report :=
  let console := surroundings.console
  match Settings.ofSources (invocation.sources surroundings system) with
  | .error failure => (system, .early console failure)
  | .ok settings =>
    match Reporting.setup surroundings.directory settings.verbosity settings.logFile system with
    | .error failure => (system, .early console failure)
    | .ok (setup, system) =>
      let (system, work) := invocation.work console settings system
      let events := Report.eventsOf invocation.command.word work
      (setup.record surroundings.time events system, .ofOutcome console setup.level work.outcome)

end Invocation

namespace Request

/-- The status of a command line that is refused. -/
def misuseStatus : Nat := 2

/-- Carries out a request. -/
def run (request : Request) (surroundings : Surroundings) (system : FileSystem) :
    FileSystem × Report :=
  match request with
  | .help => (system, .quiet 0 [])
  | .version => (system, .quiet 0 [.line ("searchdoc version " ++ versionNumber)])
  | .invoke invocation =>
    match invocation.checkPaths system with
    | .error _ => (system, .quiet misuseStatus [])
    | .ok () => invocation.run surroundings system

/-- Carries out a command line. -/
def runLine (arguments : List String) (surroundings : Surroundings) (system : FileSystem) :
    FileSystem × Report :=
  match read arguments with
  | .error _ => (system, .quiet misuseStatus [])
  | .ok request => request.run surroundings system

end Request

end DocAtlas
