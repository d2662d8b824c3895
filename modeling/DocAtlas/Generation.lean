import DocAtlas.Collection
import DocAtlas.Artifact
import DocAtlas.Settings
import DocAtlas.Tree

/-!
# Generation

This module makes the artifacts of a run. Everything is checked and built before
anything is written: the outcome of `Generation.prepare` does not depend on the
file system, and only what it prepared is written.
-/

namespace DocAtlas

/-- Everything that a run has built before it writes. -/
structure Generation where
  tree : List Node
  index : SearchIndex
  mainPage : Option Entity
  artifacts : List Artifact
  isDry : Bool

namespace Generation

/-- The first of some files whose relative name is a path. -/
def fileAt (graph : Graph) (target : Path) : List EntityId → Checked (Option EntityId)
  | [] => pure none
  | id :: rest => do
    let path ← Settings.pathOf (graph.entity id).relativeName
    if path = target then pure (some id) else fileAt graph target rest

/-- The file that becomes the index page: the one that the settings name, and
otherwise the first. -/
def mainPageId (graph : Graph) (files : List EntityId) (wanted : Value) :
    Checked (Option EntityId) :=
  match wanted with
  | .null => pure files.head?
  | _ => do
    let target ← Settings.pathOf wanted
    match ← fileAt graph target files with
    | some id => pure (some id)
    | none => refuse (.mainPageMissing wanted)

/-- The index page: a copy of its file with an empty path, since it is served from
the root of the site. -/
def chooseMainPage (graph : Graph) (files : List EntityId) (wanted : Value) :
    Checked (Option Entity) := do
  let id ← mainPageId graph files wanted
  pure (id.map fun id => { (graph.entity id).withRelativeName with path := .text "" })

/-- Builds the index and notes its size. -/
def buildIndex (graph : Graph) (classes : List EntityId) : Noted SearchIndex := do
  Noted.note (.indexing classes.length)
  let skipped := graph.undocumentedCount classes
  Noted.noteAll (if skipped = 0 then [] else [.skippedUndocumented skipped])
  let index := graph.searchIndex classes
  Noted.note (.indexed index.records.length index.names.size)
  pure index

/-- Builds the tree and notes its size. -/
def buildTree (graph : Graph) (classes files : List EntityId) (label : Value) :
    Noted (List Node) := do
  Noted.note (.buildingTree classes.length files.length)
  Noted.noteAll (if files.length ≤ 1 then [.skippedFileTree files.length] else [])
  let fileNodes ← graph.fileTree files label
  Noted.noteAll ((Graph.passedOver (graph.walk classes).remarks).map .alreadyEmitted)
  let classNodes ← graph.classTree classes
  let nodes := fileNodes ++ classNodes
  Noted.note (.treeSize (Node.count nodes))
  pure nodes

/-- What keeps a value from being written as JSON: the first part without a JSON form. -/
def misfitIn? (value : Value) : Option Misfit :=
  (Json.unwritten? value).map fun part =>
    match part with
    | .int _ => .tooManyDigits none
    | other => .notJson other.shape

/-- The two artifacts of a run, the search index first. All that goes into them has to
have a JSON form. -/
def render (settings : Settings) (treePath indexPath : Path) (tree : List Node)
    (index : SearchIndex) : Checked (List Artifact) :=
  match [index.wire, index.names.wire, .list (Node.wires tree)].findSome? misfitIn? with
  | some misfit => reject misfit
  | none => .ok (Artifact.both tree index treePath indexPath settings.treeVariable)

/-- Checks that the title can be reported, which a run does only when it reports
everything. An integer with too many digits is not written. -/
def checkTitle (settings : Settings) : Checked Unit :=
  if settings.verbosity = .verbose ∧ !settings.title.isWritable then
    reject (.tooManyDigits none)
  else .ok ()

/-- Checks a collection and builds everything that a run writes. -/
def prepare (settings : Settings) (collection : Collection) : Noted Generation := do
  let graph := collection.graph
  let treePath ← settings.treePath
  let indexPath ← settings.searchIndexPath
  let files := graph.byFullName collection.files
  let classes := graph.byFullName collection.classes
  Collection.validate { graph, classes, files }
  Noted.note (.validated (classes.length + files.length))
  let page ← chooseMainPage graph collection.files settings.mainPage
  Noted.noteAll (page.toList.map fun page => .mainPage page.relativeName)
  checkTitle settings
  Noted.note (.generating settings.title classes.length files.length)
  let index ← buildIndex graph classes
  let tree ← buildTree graph classes files settings.filesLabel
  let artifacts ← render settings treePath indexPath tree index
  pure { tree, index, mainPage := page, artifacts, isDry := settings.dryRun.isGiven }

/-- Writes what a run has prepared. -/
def write (generation : Generation) (system : FileSystem) : FileSystem × Noted (List Path) :=
  Artifact.emit generation.isDry generation.artifacts system

/-- A whole run: what was built, and the paths written. -/
def run (settings : Settings) (collection : Collection) (system : FileSystem) :
    FileSystem × Noted (Generation × List Path) :=
  let prepared := prepare settings collection
  match prepared.outcome with
  | .error failure => (system, ⟨prepared.events, .error failure⟩)
  | .ok generation =>
    let (system, written) := generation.write system
    (system, do
      Noted.noteAll prepared.events
      let paths ← written
      pure (generation, paths))

end Generation

end DocAtlas
