import DocAtlas.Tree.ClassForest
import DocAtlas.Tree.FileTrie

/-!
# Navigation tree

This module builds the group of the files from their relative names and joins the two
parts of the navigation tree: the group of the files, if there is one, and behind it
the classes and modules. A lone file gives no group.
-/

namespace DocAtlas

/-- The segments that a relative name gives: a text is cut at its slashes, and what
another value lists is taken as it is. -/
def relativeSegments : Value → Checked (List Value)
  | .text name => .ok ((Text.segments name).map .text)
  | value =>
    match value.listed? with
    | some items => .ok items
    | none => reject (.notListed value.shape)

namespace Graph

/-- Adds files in order to the entries of a trie. -/
def addFiles (graph : Graph) : List EntityId → FileTrie.Entries → Checked FileTrie.Entries
  | [], entries => pure entries
  | id :: rest, entries => do
    let entity := graph.entity id
    let segments ← relativeSegments entity.relativeName
    let (entries, added) := FileTrie.add segments entity.path entries
    added
    graph.addFiles rest entries

/-- The group of the files under a label, or nothing for fewer than two files. -/
def fileTree (graph : Graph) (files : List EntityId) (label : Value) : Checked (List Node) :=
  if files.length ≤ 1 then pure []
  else do
    let entries ← graph.addFiles files []
    pure [.group label (← FileTrie.toNodes entries)]

/-- The navigation tree of classes, modules and files. -/
def tree (graph : Graph) (classes files : List EntityId) (label : Value) :
    Checked (List Node) := do
  let fileNodes ← graph.fileTree files label
  let classNodes ← graph.classTree classes
  pure (fileNodes ++ classNodes)

end Graph

end DocAtlas
