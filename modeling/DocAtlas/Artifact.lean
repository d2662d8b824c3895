import DocAtlas.Event
import DocAtlas.FileSystem
import DocAtlas.Search.Index
import DocAtlas.Tree.Node

/-!
# Artifacts

This module renders the two artifacts of a run and writes them, the search index
first. The tree is a script that assigns a variable; the search index is a module
of two lines that exports the records and the names.
-/

namespace DocAtlas

/-- The script that assigns a forest to a variable. -/
def treeScript (nodes : List Node) (assigned : String) : String :=
  "var " ++ assigned ++ " = " ++ Node.dump nodes

/-- The module that exports the records and the name index. -/
def searchModule (index : SearchIndex) : String :=
  "export default " ++ index.dumpRecords ++ ";\n" ++
    "export const nameIndex = " ++ index.dumpNames ++ ";\n"

/-- A text and the path that it goes to. -/
structure Artifact where
  path : Path
  content : String

namespace Artifact

/-- Writes an artifact through a temporary file whose mark is any that `choose` comes
upon. -/
def writeWith (choose : FileSystem → Path → String) (artifact : Artifact)
    (system : FileSystem) : FileSystem × Noted Path :=
  match system.replaceFileWith choose artifact.path artifact.content with
  | (system, .ok ()) =>
    (system, ⟨[.wrote artifact.path artifact.content.utf8ByteSize], .ok artifact.path⟩)
  | (system, .error .nullInPath) => (system, .ofChecked (reject .nullInPath))
  | (system, .error trouble) =>
    (system, .ofChecked (refuse (.unwritable artifact.path trouble.message)))

/-- Writes an artifact through a temporary file with a free mark. -/
def write (artifact : Artifact) (system : FileSystem) : FileSystem × Noted Path :=
  artifact.writeWith FileSystem.freeMark system

/-- Writes artifacts in order up to the first failure; answers their paths. -/
def writeAll : List Artifact → FileSystem → FileSystem × Noted (List Path)
  | [], system => (system, pure [])
  | artifact :: rest, system =>
    match artifact.write system with
    | (system, ⟨events, .error failure⟩) => (system, ⟨events, .error failure⟩)
    | (system, ⟨events, .ok path⟩) =>
      let (system, others) := writeAll rest system
      (system, do
        Noted.noteAll events
        let paths ← others
        pure (path :: paths))

/-- The two artifacts of a run, in the order they are written. -/
def both (tree : List Node) (index : SearchIndex) (treePath indexPath : Path)
    (assigned : String) : List Artifact :=
  [⟨indexPath, searchModule index⟩, ⟨treePath, treeScript tree assigned⟩]

/-- Writes artifacts, or only notes what would be written when the run is dry. -/
def emit (isDry : Bool) (artifacts : List Artifact) (system : FileSystem) :
    FileSystem × Noted (List Path) :=
  if isDry then
    (system, do
      Noted.noteAll (artifacts.map fun artifact =>
        .wouldWrite artifact.path artifact.content.length)
      pure [])
  else writeAll artifacts system

end Artifact

end DocAtlas
