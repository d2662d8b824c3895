import DocAtlas.Proofs.Tree.Loaded
import Mathlib.Data.Finset.Card

/-!
# Number of nodes

Nodes are counted with a stack. Whatever the order in which it gives them out, each push
keeps what is counted and what is still to be counted in balance, so the stack ends at the
size of the forest. That of a navigation tree is told by the collection alone: a node for each
class and module that has documentation and, where there are several files, a node for their
group, for each file, and for each directory on the way to one.
-/

namespace DocAtlas

namespace Node

/-- A stack gives what was counted and the size of what stands on it. -/
theorem countFrom_eq (counted : Nat) (stack : List Node) :
    countFrom counted stack = counted + sizes stack := by
  induction counted, stack using countFrom.induct with
  | case1 counted => simp [countFrom, sizes]
  | case2 counted node rest inductionHypothesis =>
      rw [countFrom, inductionHypothesis, sizes_append, sizes_reverse, sizes, size_eq]
      omega

/-- The count of a forest is its size. -/
theorem count_eq_sizes (nodes : List Node) : count nodes = sizes nodes := by
  rw [count, countFrom_eq, sizes_reverse, Nat.zero_add]

/-- A path leads to a directory in front of what another path leads to. -/
structure IsInFront (path whole : List String) : Prop where
  nonempty : path ≠ []
  leads : path <+: whole
  proper : path ≠ whole

/-- No path is in front of a single segment. -/
theorem not_isInFront_singleton {path : List String} {name : String} :
    ¬ IsInFront path [name] := by
  rintro ⟨nonempty, leads, proper⟩
  exact proper (leads.eq_of_length_le (List.length_pos_iff.mpr nonempty))

/-- A path is in front of a longer one when it starts the same way and does not reach the end. -/
theorem isInFront_cons_iff {head name : String} {path whole : List String} :
    IsInFront (head :: path) (name :: whole) ↔ head = name ∧ path <+: whole ∧ path ≠ whole := by
  constructor
  · rintro ⟨-, leads, proper⟩
    obtain ⟨rfl, leadsOn⟩ := List.cons_prefix_cons.mp leads
    exact ⟨rfl, leadsOn, fun same => proper (same ▸ rfl)⟩
  · rintro ⟨rfl, leads, proper⟩
    exact ⟨List.cons_ne_nil _ _, List.cons_prefix_cons.mpr ⟨rfl, leads⟩,
      fun same => proper (List.cons.inj same).2⟩

mutual

/-- The paths of the directories at or below a node. -/
def folders : Node → List (List String)
  | entity _ _ _ _ => []
  | group label children =>
    [label.display] :: (foldersOf children).map (label.display :: ·)
  | page _ _ => []

/-- The paths of the directories of a level, in order. -/
def foldersOf : List Node → List (List String)
  | [] => []
  | node :: rest => folders node ++ foldersOf rest

end

/-- The folders of nodes are those of each of them, in order. -/
theorem foldersOf_eq_flatMap (nodes : List Node) : foldersOf nodes = nodes.flatMap folders := by
  induction nodes with
  | nil => rfl
  | cons node rest inductionHypothesis => rw [foldersOf, inductionHypothesis, List.flatMap_cons]

/-- A folder of nodes is a folder of one of them. -/
theorem mem_foldersOf {nodes : List Node} {path : List String} :
    path ∈ foldersOf nodes ↔ ∃ node ∈ nodes, path ∈ node.folders := by
  rw [foldersOf_eq_flatMap, List.mem_flatMap]

/-- The path of a folder starts with the segment of its node. -/
theorem head?_of_mem_folders {node : Node} {path : List String} (isFolder : path ∈ node.folders) :
    path.head? = some node.segment := by
  cases node with
  | entity => simp [folders] at isFolder
  | page => simp [folders] at isFolder
  | group label children =>
      rcases List.mem_cons.mp isFolder with rfl | isBelow
      · rfl
      · obtain ⟨below, -, rfl⟩ := List.mem_map.mp isBelow
        rfl

/-- A level is made of its pages and directories when its nodes are. -/
theorem sizes_eq_of_filed {nodes : List Node}
    (each : ∀ node ∈ nodes, node.size = node.leaves.length + node.folders.length) :
    sizes nodes = (leavesOf nodes).length + (foldersOf nodes).length := by
  induction nodes with
  | nil => rfl
  | cons node rest inductionHypothesis =>
      rw [List.forall_mem_cons] at each
      rw [sizes, leavesOf, foldersOf, each.1, inductionHypothesis each.2, List.length_append,
        List.length_append]
      omega

/-- A filed node counts its leaves and its folders. -/
theorem IsFiled.size_eq {node : Node} (filed : node.IsFiled) :
    node.size = node.leaves.length + node.folders.length := by
  induction filed with
  | page name url => rfl
  | directory name filled sorted below inductionHypothesis =>
      rw [size, leaves, folders, sizes_eq_of_filed inductionHypothesis, List.length_cons,
        List.length_map, List.length_map]
      omega

/-- No folder of a filed node occurs twice. -/
theorem IsFiled.nodup_folders {node : Node} (filed : node.IsFiled) : node.folders.Nodup := by
  induction filed with
  | page name url => exact List.nodup_nil
  | @directory name children filled sorted below inductionHypothesis =>
      have distinct : (foldersOf children).Nodup := by
        rw [foldersOf_eq_flatMap]
        exact sorted.nodup_flatMap (fun _ _ => head?_of_mem_folders) inductionHypothesis
      rw [folders, List.nodup_cons]
      refine ⟨fun isBelow => ?_, distinct.map fun left right same => (List.cons.inj same).2⟩
      obtain ⟨below, isFolder, same⟩ := List.mem_map.mp isBelow
      obtain ⟨node, -, isFolder⟩ := mem_foldersOf.mp isFolder
      have starts := head?_of_mem_folders isFolder
      simp [(List.cons.inj same).2] at starts

/-- The directories at or below a node are those in front of its pages. -/
theorem IsFiled.mem_folders_iff {node : Node} (filed : node.IsFiled) {path : List String} :
    path ∈ node.folders ↔ ∃ leaf ∈ node.leaves, IsInFront path leaf.1 := by
  induction filed generalizing path with
  | page name url => simp [folders, leaves, not_isInFront_singleton]
  | @directory name children filled sorted below inductionHypothesis =>
      rw [folders, List.mem_cons, List.mem_map]
      constructor
      · rintro (rfl | ⟨rest, isFolder, rfl⟩)
        · -- A directory is in front of all that is in it.
          obtain ⟨leaf, isLeaf⟩ := (IsFiled.directory name filled sorted below).exists_leaf
          obtain ⟨inner, isInner, rfl⟩ := List.mem_map.mp isLeaf
          refine ⟨_, isLeaf, isInFront_cons_iff.mpr ⟨rfl, List.nil_prefix, ?_⟩⟩
          exact (path_ne_nil_of_mem_leavesOf isInner).symm
        · obtain ⟨child, isChild, isFolder⟩ := mem_foldersOf.mp isFolder
          obtain ⟨leaf, isLeaf, inFront⟩ := (inductionHypothesis child isChild).mp isFolder
          exact ⟨(name :: leaf.1, leaf.2),
            mem_leaves_group.mpr ⟨rfl, mem_leavesOf.mpr ⟨child, isChild, isLeaf⟩⟩,
            isInFront_cons_iff.mpr ⟨rfl, inFront.leads, inFront.proper⟩⟩
      · rintro ⟨leaf, isLeaf, inFront⟩
        obtain ⟨inner, isInner, rfl⟩ := List.mem_map.mp isLeaf
        obtain ⟨child, isChild, isInner⟩ := mem_leavesOf.mp isInner
        obtain ⟨head, rest, rfl⟩ := List.exists_cons_of_ne_nil inFront.nonempty
        obtain ⟨rfl, leads, proper⟩ := isInFront_cons_iff.mp inFront
        by_cases isEmpty : rest = []
        · exact .inl (isEmpty ▸ rfl)
        · have isFolder := (inductionHypothesis child isChild).mpr
            ⟨inner, isInner, isEmpty, leads, proper⟩
          exact .inr ⟨rest, mem_foldersOf.mpr ⟨child, isChild, isFolder⟩, rfl⟩

namespace IsFileLevel

variable {nodes : List Node} (level : IsFileLevel nodes)
include level

/-- The nodes of a level count its leaves and its folders. -/
theorem sizes_eq : sizes nodes = (leavesOf nodes).length + (foldersOf nodes).length :=
  sizes_eq_of_filed fun node isNode => (level.filed node isNode).size_eq

/-- No folder of a level occurs twice. -/
theorem nodup_foldersOf : (foldersOf nodes).Nodup := by
  rw [foldersOf_eq_flatMap]
  exact level.sorted.nodup_flatMap (fun _ _ => head?_of_mem_folders)
    fun node isNode => (level.filed node isNode).nodup_folders

/-- The folders of a level are what is in front of its leaves. -/
theorem mem_foldersOf_iff {path : List String} :
    path ∈ foldersOf nodes ↔ ∃ leaf ∈ leavesOf nodes, IsInFront path leaf.1 := by
  rw [mem_foldersOf]
  constructor
  · rintro ⟨node, isNode, isFolder⟩
    obtain ⟨leaf, isLeaf, inFront⟩ := (level.filed node isNode).mem_folders_iff.mp isFolder
    exact ⟨leaf, mem_leavesOf.mpr ⟨node, isNode, isLeaf⟩, inFront⟩
  · rintro ⟨leaf, isLeaf, inFront⟩
    obtain ⟨node, isNode, isLeaf⟩ := mem_leavesOf.mp isLeaf
    exact ⟨node, isNode, (level.filed node isNode).mem_folders_iff.mpr ⟨leaf, isLeaf, inFront⟩⟩

end IsFileLevel

end Node

namespace Graph

/-- The non-empty proper prefixes of the split paths of files. -/
def directories (graph : Graph) (files : List EntityId) : Finset (List String) :=
  (files.flatMap fun id =>
    (graph.segments id).inits.filter fun path => path ≠ [] ∧ path ≠ graph.segments id).toFinset

/-- The directories of files are what is in front of their paths. -/
theorem mem_directories {graph : Graph} {files : List EntityId} {path : List String} :
    path ∈ graph.directories files ↔ ∃ id ∈ files, Node.IsInFront path (graph.segments id) := by
  simp only [directories, List.mem_toFinset, List.mem_flatMap, List.mem_filter, List.mem_inits,
    decide_eq_true_eq]
  constructor
  · rintro ⟨id, isFile, leads, nonempty, proper⟩
    exact ⟨id, isFile, nonempty, leads, proper⟩
  · rintro ⟨id, isFile, nonempty, leads, proper⟩
    exact ⟨id, isFile, leads, nonempty, proper⟩

/-- The tree of files is their group with a node for each of them and for each directory in
front of one. -/
theorem sizes_of_fileTree {graph : Graph} {files : List EntityId}
    (texts : ∀ id ∈ files, graph.HasTexts id) {label : Value} {nodes : List Node}
    (made : graph.fileTree files label = .ok nodes) :
    Node.sizes nodes =
      if 2 ≤ files.length then 1 + files.length + (graph.directories files).card else 0 := by
  by_cases several : 2 ≤ files.length
  · obtain ⟨-, children, rfl, level, leaves⟩ := group_of_fileTree several texts made
    have sameFolders : (Node.foldersOf children).toFinset = graph.directories files := by
      ext path
      rw [List.mem_toFinset, level.mem_foldersOf_iff, mem_directories]
      simp only [leaves.mem_iff, List.mem_map, exists_exists_and_eq_and]
    rw [if_pos several, ← sameFolders, List.toFinset_card_of_nodup level.nodup_foldersOf,
      Node.sizes, Node.sizes, Node.size, level.sizes_eq, leaves.length_eq, List.length_map]
    omega
  · rw [fileTree, if_pos (Nat.le_of_lt_succ (Nat.lt_of_not_le several))] at made
    obtain rfl := Except.ok.inj made
    rw [if_neg several, Node.sizes]

/-- Nodes that show branches are as many as the entities of these. -/
theorem Shows.sizes_eq {graph : Graph} {nodes : List Node} {branches : List Branch}
    (shows : graph.Shows nodes branches) :
    Node.sizes nodes = (Branch.entities branches).length := by
  induction shows with
  | nil => rfl
  | cons _ _ _ _ _ _ innerHypothesis othersHypothesis =>
      rw [Node.sizes, Node.size, innerHypothesis, othersHypothesis, Branch.entities_cons,
        List.length_cons, List.length_append]
      omega

end Graph

/-- The forest has a place for each class and module that has documentation. -/
theorem Collection.IsLinked.forest_length {collection : Collection}
    (linked : collection.IsLinked) :
    (Branch.entities collection.forest).length =
      collection.classes.countP collection.graph.hasDocumentation := by
  have perm : (Branch.entities collection.forest).Perm
      (collection.classes.filter collection.graph.hasDocumentation) := by
    rw [List.perm_ext_iff_of_nodup linked.nodup_forest (linked.nodup_classes.filter _)]
    exact fun id => by rw [linked.mem_forest, List.mem_filter]
  rw [perm.length_eq, List.countP_eq_length_filter]

namespace Manifest

variable {manifest : Value} (typed : isWellTyped manifest = true) {collection : Collection}
  (loaded : load manifest = .ok collection)
include typed loaded

/-- No node of a navigation tree is lost, made twice or made for nothing: its count is that of
the classes and modules that have documentation and, where there are at least two files, one
more for their group, one for each of them and one for each non-empty proper prefix of their
split paths. -/
theorem count_tree {label : Value} {nodes : List Node}
    (made : collection.graph.tree collection.classes collection.files label = .ok nodes) :
    Node.count nodes = collection.classes.countP collection.graph.hasDocumentation +
      if 2 ≤ collection.files.length then
        1 + collection.files.length + (collection.graph.directories collection.files).card
      else 0 := by
  obtain ⟨fileNodes, classNodes, rfl, madeFiles, shows⟩ := nodes_of_tree typed loaded made
  rw [Node.count_eq_sizes, Node.sizes_append, shows.sizes_eq,
    (isLinked_of_load typed loaded).forest_length,
    Graph.sizes_of_fileTree (hasTexts_of_load typed loaded) madeFiles, Nat.add_comm]

omit typed loaded

/-- A module shown for the class in it, a class that has no documentation, and four files, two
of them in one directory. -/
def depot : Value :=
  .record
    [("classes", .list
      [.record [("full_name", .text "Net"), ("kind", .text "module")],
       .record [("full_name", .text "Net::Http"), ("parent", .text "Net"),
        ("path", .text "http.html"), ("documents_self", .bool true)],
       .record [("full_name", .text "Idle"), ("path", .text "idle.html")]]),
     ("files", .list
      [.record [("full_name", .text "lib/net/http.rb"), ("path", .text "h.html")],
       .record [("full_name", .text "lib//net/./ftp.rb"), ("path", .text "f.html")],
       .record [("full_name", .text "lib/io.rb"), ("path", .text "i.html")],
       .record [("full_name", .text "readme"), ("path", .text "r.html")]])]

/-- The tree of the depot has two nodes for classes and seven for files: `lib` and `lib/net`
are made once each. -/
theorem count_depot_tree :
    isWellTyped depot = true ∧ ∃ collection nodes, load depot = .ok collection ∧
      collection.graph.tree collection.classes collection.files (.text "files") = .ok nodes ∧
      Node.count nodes = 2 + (1 + 4 + 2) := by
  have typed : isWellTyped depot = true := by decide
  obtain ⟨collection, loaded, fit, documented, files, directories⟩ :
      ∃ collection, load depot = .ok collection ∧
        ¬ collection.graph.Collide collection.files ∧
        collection.classes.countP collection.graph.hasDocumentation = 2 ∧
        collection.files.length = 4 ∧
        (collection.graph.directories collection.files).card = 2 := by
    refine ⟨_, rfl, ?_, rfl, rfl, rfl⟩
    rw [Graph.not_collide_iff]
    unfold FileTrie.Apart
    decide
  obtain ⟨nodes, made⟩ := (exists_tree_iff typed loaded (.text "files")).mpr fun _ => fit
  have counted := count_tree typed loaded made
  rw [documented, files, directories] at counted
  exact ⟨typed, collection, nodes, loaded, made, counted⟩

end Manifest

end DocAtlas
