import DocAtlas.Command.Limit
import DocAtlas.Command.Switch
import DocAtlas.FileSystem

/-!
# Requests

This module reads a command line as a request. Every misuse of it is found
before the settings are read, so a command line that is refused has no effect.
-/

namespace DocAtlas

/-- The words for commands. -/
inductive CommandWord where
  | build
  | tree
  | search
deriving DecidableEq, Repr

/-- What a command is to do. -/
inductive Command where
  | build (output : Option String) (isDry isQuiet : Bool)
  | tree
  | search (query : String) (limit : Nat)

/-- A command with what all commands are given. -/
structure Invocation where
  command : Command
  manifest : String
  settingsFile : Option String
  isVerbose : Bool

/-- What a command line asks for. -/
inductive Request where
  | help
  | version
  | invoke (invocation : Invocation)

namespace CommandWord

/-- The spelling of a command. -/
def text : CommandWord → String
  | build => "build"
  | tree => "tree"
  | search => "search"

/-- The command that a word spells. -/
def ofText? (text : String) : Option CommandWord :=
  [build, tree, search].find? fun word => word.text == text

/-- The switches that a command knows. -/
def switches : CommandWord → List Switch
  | build => [.help, .output, .dryRun, .config, .verbose, .quiet]
  | tree => [.help, .config, .verbose]
  | search => [.help, .limit, .config, .verbose]

/-- The names of the operands that a command needs. -/
def operands : CommandWord → List String
  | build | tree => ["MANIFEST"]
  | search => ["MANIFEST", "QUERY"]

end CommandWord

/-- The word of a command. -/
def Command.word : Command → CommandWord
  | build .. => .build
  | tree => .tree
  | search .. => .search

namespace Request

/-- How many hits a search shows unless it is told. -/
def defaultLimit : Nat := 10

/-- The limit of a search. -/
def readLimit (reading : Reading) : Except Misuse Nat :=
  match reading.value? .limit with
  | none => .ok defaultLimit
  | some written =>
    match Limit.read? written with
    | some limit => .ok limit
    | none => .error (.limitRefused written)

/-- The misuse in a wrong number of operands. -/
def wrongOperands (word : CommandWord) (operands : List String) : Misuse :=
  match word.operands.drop operands.length with
  | name :: _ => .operandMissing name
  | [] => .operandUnwanted ((operands.drop word.operands.length).headD "")

/-- The request that the arguments of a command make. -/
def ofReading (word : CommandWord) (reading : Reading) : Except Misuse Request :=
  let invoke (command : Command) (manifest : String) : Request :=
    .invoke ⟨command, manifest, reading.value? .config, reading.has .verbose⟩
  if reading.has .help then .ok .help
  else
    match word, reading.operands with
    | .build, [manifest] =>
      .ok (invoke (.build (reading.value? .output) (reading.has .dryRun) (reading.has .quiet))
        manifest)
    | .tree, [manifest] => .ok (invoke .tree manifest)
    | .search, [manifest, query] =>
      (readLimit reading).map fun limit => invoke (.search query limit) manifest
    | _, operands => .error (wrongOperands word operands)

/-- The request that a command line makes. Without a command it asks for help,
unless it asks for the version. -/
def read (arguments : List String) : Except Misuse Request := do
  let top ← Reading.scan false [.help, .version] arguments
  if top.has .help then pure .help
  else
    match top.operands with
    | [] => pure (if top.has .version then .version else .help)
    | text :: rest =>
      match CommandWord.ofText? text with
      | some word => ofReading word (← Reading.scan true word.switches rest)
      | none => throw (.unknownCommand text)

end Request

namespace Invocation

/-- Checks that a path leads to a file. -/
def checkFile (system : FileSystem) (written : String) : Except Misuse Unit :=
  match system.entry? (Path.ofString written) with
  | some (.file ..) => .ok ()
  | _ => .error (.noSuchFile written)

/-- Checks that a path can be looked for and does not lead to a file. -/
def checkNoFile (system : FileSystem) (written : String) : Except Misuse Unit :=
  let path := Path.ofString written
  if path.hasNull then .error (.notDirectory written)
  else
    match system.entry? path with
    | some (.file ..) => .error (.notDirectory written)
    | _ => .ok ()

/-- Checks the paths of an invocation: the manifest and the settings file are
files, and the output directory is none. -/
def checkPaths (invocation : Invocation) (system : FileSystem) : Except Misuse Unit := do
  checkFile system invocation.manifest
  invocation.settingsFile.forM (checkFile system)
  match invocation.command with
  | .build output _ _ => output.forM (checkNoFile system)
  | _ => pure ()

end Invocation

end DocAtlas
