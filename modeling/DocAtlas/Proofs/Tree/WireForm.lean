import DocAtlas.Proofs.Tree.Loaded
import Mathlib.Data.List.Permutation

/-!
# Wire forms of navigation trees

All kinds of node share one array of four items, so a group looks like a class without a
name and a page like a class with nothing below it. In a navigation tree they are told apart
all the same: classes and pages have names, groups stand at the top with an empty name, and
only groups and pages stand below a group. The wire form of a navigation tree therefore
determines its nodes.
-/

namespace DocAtlas

namespace Node

/-- A class or module that has a name, with nothing but such nodes below it. -/
inductive IsClassNode : Node → Prop where
  | entity {name path suffix children} (named : name ≠ .text "")
      (below : ∀ child ∈ children, IsClassNode child) :
      IsClassNode (.entity name path suffix children)

/-- A page that has a name, or a group with nothing but such nodes below it. -/
inductive IsFileNode : Node → Prop where
  | page {name url} (named : name ≠ .text "") : IsFileNode (.page name url)
  | group {label children} (below : ∀ child ∈ children, IsFileNode child) :
      IsFileNode (.group label children)

/-- What stands at the top of a navigation tree: a class or module, or the group of the
files. -/
inductive IsTopNode : Node → Prop where
  | entity {node : Node} (isClass : node.IsClassNode) : IsTopNode node
  | group {label children} (below : ∀ child ∈ children, IsFileNode child) :
      IsTopNode (.group label children)

/-- Forests with the same wire form are the same where their nodes are determined by
theirs. -/
theorem eq_of_wires {lefts rights : List Node}
    (determined : ∀ left ∈ lefts, ∀ right ∈ rights, wire left = wire right → left = right)
    (same : wires lefts = wires rights) : lefts = rights := by
  induction lefts generalizing rights with
  | nil =>
      cases rights with
      | nil => rfl
      | cons right rights => exact absurd same (by simp [wires])
  | cons left lefts inductionHypothesis =>
      cases rights with
      | nil => exact absurd same (by simp [wires])
      | cons right rights =>
          obtain ⟨here, others⟩ := List.cons.inj same
          rw [determined left List.mem_cons_self right List.mem_cons_self here]
          refine congrArg _ (inductionHypothesis (fun other isOther partner isPartner => ?_) others)
          exact determined other (List.mem_cons_of_mem _ isOther) partner
            (List.mem_cons_of_mem _ isPartner)

/-- Among classes and modules the wire form determines the node. -/
theorem IsClassNode.eq_of_wire {left right : Node} (leftClass : left.IsClassNode)
    (rightClass : right.IsClassNode) (same : wire left = wire right) : left = right := by
  induction leftClass generalizing right with
  | @entity name path suffix children _ _ inductionHypothesis =>
      obtain @⟨otherName, otherPath, otherSuffix, others, -, otherBelow⟩ := rightClass
      simp only [wire, Value.list.injEq, List.cons.injEq, Value.text.injEq, and_true] at same
      obtain ⟨sameName, samePath, sameSuffix, sameBelow⟩ := same
      have sameChildren := eq_of_wires (fun child isChild other isOther =>
        inductionHypothesis child isChild (otherBelow other isOther)) sameBelow
      rw [sameName, samePath, sameSuffix, sameChildren]

/-- So it does among groups and pages: a page has a name, and a group has none. -/
theorem IsFileNode.eq_of_wire {left right : Node} (leftFile : left.IsFileNode)
    (rightFile : right.IsFileNode) (same : wire left = wire right) : left = right := by
  induction leftFile generalizing right with
  | page named =>
      cases rightFile with
      | page => simp_all [wire]
      | group => exact absurd (by simp_all [wire]) named
  | group below inductionHypothesis =>
      cases rightFile with
      | page named => exact absurd (by simp_all [wire]) named
      | group otherBelow =>
          simp only [wire, Value.list.injEq, List.cons.injEq, and_true, true_and] at same
          have sameChildren := eq_of_wires (fun child isChild other isOther =>
            inductionHypothesis child isChild (otherBelow other isOther)) same.2
          rw [same.1, sameChildren]

/-- At the top a name tells classes and modules from groups. -/
theorem IsTopNode.eq_of_wire {left right : Node} (leftTop : left.IsTopNode)
    (rightTop : right.IsTopNode) (same : wire left = wire right) : left = right := by
  cases leftTop with
  | entity leftClass =>
      cases rightTop with
      | entity rightClass => exact leftClass.eq_of_wire rightClass same
      | group below =>
          obtain ⟨named, -⟩ := leftClass
          exact absurd (by simp_all [wire]) named
  | group below =>
      cases rightTop with
      | entity rightClass =>
          obtain ⟨named, -⟩ := rightClass
          exact absurd (by simp_all [wire]) named
      | group otherBelow => exact (IsFileNode.group below).eq_of_wire (.group otherBelow) same

/-- Elsewhere a group and a class without name may share their wire form. -/
example : wire (.group (.text "db") []) = wire (.entity (.text "") (.text "") "db" []) := rfl

/-- A directory or page whose leaves have names all along their paths is one of those. -/
theorem IsFiled.isFileNode {node : Node} (filed : node.IsFiled)
    (named : ∀ leaf ∈ node.leaves, "" ∉ leaf.1) : node.IsFileNode := by
  induction filed with
  | page name url =>
      refine .page fun isEmpty => ?_
      have isNamed := named ([name], url) mem_leaves_page
      rw [Value.text.inj isEmpty] at isNamed
      exact isNamed List.mem_cons_self
  | @directory name children _ _ _ inductionHypothesis =>
      refine .group fun child isChild => inductionHypothesis child isChild fun leaf isLeaf => ?_
      have isBelow : (name :: leaf.1, leaf.2) ∈ (group (.text name) children).leaves :=
        mem_leaves_group.mpr ⟨rfl, mem_leavesOf.mpr ⟨child, isChild, isLeaf⟩⟩
      exact fun isUnnamed => named _ isBelow (List.mem_cons_of_mem _ isUnnamed)

end Node

/-- No segment of a path is empty. -/
theorem Text.empty_not_mem_segments (path : String) : "" ∉ Text.segments path := by
  intro isSegment
  obtain ⟨segment, isNamed, isEmpty⟩ := List.mem_map.mp isSegment
  have isNil : segment = [] := by simpa using congrArg String.toList isEmpty
  simp [isNil, Text.isNaming] at isNamed

namespace Graph

/-- Nodes that show named entities are classes and modules. -/
theorem Shows.isClassNode {graph : Graph} {nodes : List Node} {branches : List Branch}
    (shows : graph.Shows nodes branches)
    (named : ∀ id ∈ Branch.entities branches, (graph.entity id).name ≠ .text "") :
    ∀ node ∈ nodes, node.IsClassNode := by
  induction shows with
  | nil => simp
  | cons itsName _ _ _ _ _ innerHypothesis othersHypothesis =>
      rw [Branch.entities_cons, List.forall_mem_cons, List.forall_mem_append] at named
      rw [List.forall_mem_cons]
      exact ⟨.entity (itsName ▸ named.1) (innerHypothesis named.2.1),
        othersHypothesis named.2.2⟩

/-- The tree of files whose names and paths are texts is a group of groups and pages, or
nothing. -/
theorem isTopNode_of_fileTree {graph : Graph} {files : List EntityId}
    (texts : ∀ id ∈ files, graph.HasTexts id) {label : Value} {nodes : List Node}
    (made : graph.fileTree files label = .ok nodes) : ∀ node ∈ nodes, node.IsTopNode := by
  by_cases several : 2 ≤ files.length
  · obtain ⟨-, children, rfl, level, leaves⟩ := group_of_fileTree several texts made
    rw [List.forall_mem_singleton]
    refine .group fun child isChild =>
      (level.filed child isChild).isFileNode fun leaf isLeaf => ?_
    have isFileLeaf := leaves.mem_iff.mp (Node.mem_leavesOf.mpr ⟨child, isChild, isLeaf⟩)
    obtain ⟨id, -, rfl⟩ := List.mem_map.mp isFileLeaf
    exact Text.empty_not_mem_segments _
  · rw [fileTree, if_pos (Nat.le_of_lt_succ (Nat.lt_of_not_le several))] at made
    obtain rfl := Except.ok.inj made
    exact fun _ isNode => absurd isNode List.not_mem_nil

end Graph

namespace Manifest

variable {manifest : Value} (typed : isWellTyped manifest = true) {collection : Collection}
  (loaded : load manifest = .ok collection)
include typed loaded

/-- The navigation tree of a loaded manifest has classes and modules with names and the group
of the files at its top. -/
theorem isTopNode_of_tree {label : Value} {nodes : List Node}
    (made : collection.graph.tree collection.classes collection.files label = .ok nodes) :
    ∀ node ∈ nodes, node.IsTopNode := by
  have linked := isLinked_of_load typed loaded
  obtain ⟨fileNodes, classNodes, rfl, madeFiles, shows⟩ := nodes_of_tree typed loaded made
  rw [List.forall_mem_append]
  constructor
  · exact Graph.isTopNode_of_fileTree (hasTexts_of_load typed loaded) madeFiles
  · have named : ∀ id ∈ Branch.entities collection.forest,
        (collection.graph.entity id).name ≠ .text "" := by
      intro id isShown isEmpty
      have passes := (Collection.validate_eq_ok_iff.mp linked.accepted).1 id
        (linked.mem_forest.mp isShown).1
      have isGiven := (Graph.checkClass_eq_ok_iff.mp passes).2.1
      rw [isEmpty] at isGiven
      exact absurd isGiven (by decide)
    exact fun node isNode => .entity (shows.isClassNode named node isNode)

/-- The wire form of a navigation tree is unambiguous: loaded manifests whose trees have the
same one have the same trees, whatever the labels of their files. -/
theorem tree_determined_by_wires {other : Value} (otherTyped : isWellTyped other = true)
    {otherCollection : Collection} (otherLoaded : load other = .ok otherCollection)
    {label otherLabel : Value} {nodes otherNodes : List Node}
    (made : collection.graph.tree collection.classes collection.files label = .ok nodes)
    (otherMade : otherCollection.graph.tree otherCollection.classes otherCollection.files
      otherLabel = .ok otherNodes)
    (same : Node.wires nodes = Node.wires otherNodes) : nodes = otherNodes :=
  Node.eq_of_wires (fun node isNode otherNode isOther =>
    (isTopNode_of_tree typed loaded made node isNode).eq_of_wire
      (isTopNode_of_tree otherTyped otherLoaded otherMade otherNode isOther)) same

omit typed loaded

/-- A module with a class in it, and two files in one directory. -/
def gallery : Value :=
  .record
    [("classes", .list
      [.record [("full_name", .text "Art"), ("kind", .text "module")],
       .record [("full_name", .text "Art::Oval"), ("parent", .text "Art"),
        ("superclass", .text "Shape"), ("path", .text "oval.html"),
        ("documents_self", .bool true)]]),
     ("files", .list
      [.record [("full_name", .text "db/c"), ("path", .text "c.html")],
       .record [("full_name", .text "db/a"), ("path", .text "a.html")]])]

/-- The gallery under other full names, with its files exchanged and spelled in another
way. -/
def respelledGallery : Value :=
  .record
    [("classes", .list
      [.record [("full_name", .text "X::Art"), ("kind", .text "module")],
       .record [("full_name", .text "X::Art::Oval"), ("parent", .text "X::Art"),
        ("superclass", .text "Shape"), ("path", .text "oval.html"),
        ("documents_self", .bool true)]]),
     ("files", .list
      [.record [("full_name", .text "./db/a"), ("path", .text "a.html")],
       .record [("full_name", .text "db//c"), ("path", .text "c.html")]])]

/-- The tree that either gallery is shown by. -/
def galleryTree : List Node :=
  [.group (.text "files")
    [.group (.text "db") [.page (.text "a") "a.html", .page (.text "c") "c.html"]],
   .entity (.text "Art") (.text "") ""
    [.entity (.text "Oval") (.text "oval.html") " < Shape" []]]

/-- Both galleries are loaded, and their trees have one wire form and are one tree. -/
theorem galleries_determined_by_wires :
    isWellTyped gallery = true ∧ isWellTyped respelledGallery = true ∧
      ∃ collection otherCollection nodes otherNodes,
        load gallery = .ok collection ∧ load respelledGallery = .ok otherCollection ∧
        collection.graph.tree collection.classes collection.files (.text "files") = .ok nodes ∧
        otherCollection.graph.tree otherCollection.classes otherCollection.files
          (.text "files") = .ok otherNodes ∧
        Node.wires nodes = Node.wires otherNodes ∧ nodes = otherNodes := by
  have typed : isWellTyped gallery = true := by decide
  have otherTyped : isWellTyped respelledGallery = true := by decide
  obtain ⟨collection, loaded, made⟩ : ∃ collection, load gallery = .ok collection ∧
      collection.graph.tree collection.classes collection.files (.text "files") =
        .ok galleryTree := ⟨_, rfl, by cbv⟩
  obtain ⟨otherCollection, otherLoaded, otherMade⟩ : ∃ collection,
      load respelledGallery = .ok collection ∧
      collection.graph.tree collection.classes collection.files (.text "files") =
        .ok galleryTree := ⟨_, rfl, by cbv⟩
  exact ⟨typed, otherTyped, collection, otherCollection, _, _, loaded, otherLoaded, made, otherMade,
    rfl, tree_determined_by_wires typed loaded otherTyped otherLoaded made otherMade rfl⟩

end Manifest

end DocAtlas
