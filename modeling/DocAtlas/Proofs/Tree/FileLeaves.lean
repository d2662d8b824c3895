import DocAtlas.Tree.Node
import DocAtlas.Value.Display
import Mathlib.Data.List.Nodup
import Mathlib.Data.List.Perm.Basic
import Mathlib.Data.String.Basic

/-!
# Leaves of file trees

A file tree is read by its leaves: the address of each page behind the labels of the
directories on the way to it and its own name. Where the segments of every level increase
strictly and no directory is empty, nothing else is in a tree: its leaves determine it.
-/

namespace DocAtlas.Node

/-- What a node is called among its siblings. -/
def segment : Node → String
  | entity name _ _ _ => name.display
  | group label _ => label.display
  | page name _ => name.display

mutual

/-- The pages at or below a directory or page, each with its path from there and its
address. -/
def leaves : Node → List (List String × String)
  | entity _ _ _ _ => []
  | group label children =>
    (leavesOf children).map fun leaf => (label.display :: leaf.1, leaf.2)
  | page name url => [([name.display], url)]

/-- The pages of a level, in order. -/
def leavesOf : List Node → List (List String × String)
  | [] => []
  | node :: rest => leaves node ++ leavesOf rest

end

/-- The segments of siblings increase strictly, in the order of their code points. -/
def IsSorted (nodes : List Node) : Prop :=
  nodes.Pairwise fun left right => left.segment < right.segment

/-- A page or a directory with a text for a segment. No directory is empty, and the
siblings in it are sorted. -/
inductive IsFiled : Node → Prop where
  | page (name url : String) : IsFiled (.page (.text name) url)
  | directory (name : String) {children : List Node} (filled : children ≠ [])
      (sorted : IsSorted children) (below : ∀ child ∈ children, IsFiled child) :
      IsFiled (.group (.text name) children)

/-- A level of a file tree, directories and pages mixed. -/
structure IsFileLevel (nodes : List Node) : Prop where
  sorted : IsSorted nodes
  filed : ∀ node ∈ nodes, node.IsFiled

/-- The leaves of nodes are those of each of them, in order. -/
theorem leavesOf_eq_flatMap (nodes : List Node) : leavesOf nodes = nodes.flatMap leaves := by
  induction nodes with
  | nil => rfl
  | cons node rest inductionHypothesis => rw [leavesOf, inductionHypothesis, List.flatMap_cons]

/-- A leaf of nodes is a leaf of one of them. -/
theorem mem_leavesOf {nodes : List Node} {leaf : List String × String} :
    leaf ∈ leavesOf nodes ↔ ∃ node ∈ nodes, leaf ∈ node.leaves := by
  rw [leavesOf_eq_flatMap, List.mem_flatMap]

/-- The path of a leaf starts with the segment of its node. -/
theorem head?_of_mem_leaves {node : Node} {leaf : List String × String}
    (isLeaf : leaf ∈ node.leaves) : leaf.1.head? = some node.segment := by
  cases node with
  | entity => simp [leaves] at isLeaf
  | group label children =>
      obtain ⟨below, -, rfl⟩ := List.mem_map.mp isLeaf
      rfl
  | page name url =>
      obtain rfl := List.mem_singleton.mp isLeaf
      rfl

/-- A page is its own leaf. -/
theorem mem_leaves_page {name : Value} {url : String} :
    ([name.display], url) ∈ (page name url).leaves := by
  rw [leaves]
  exact List.mem_singleton_self _

/-- What stands below a directory are the leaves of its children. -/
theorem mem_leaves_group {label : Value} {children : List Node} {segment : String}
    {path : List String} {url : String} :
    (segment :: path, url) ∈ (group label children).leaves ↔
      segment = label.display ∧ (path, url) ∈ leavesOf children := by
  simp [leaves, eq_comm, and_comm]

/-- No leaf has an empty path. -/
theorem path_ne_nil_of_mem_leavesOf {nodes : List Node} {leaf : List String × String}
    (isLeaf : leaf ∈ leavesOf nodes) : leaf.1 ≠ [] := by
  obtain ⟨node, -, isBelow⟩ := mem_leavesOf.mp isLeaf
  intro isEmpty
  simpa [isEmpty] using head?_of_mem_leaves isBelow

/-- A filed node has a leaf. -/
theorem IsFiled.exists_leaf {node : Node} (filed : node.IsFiled) :
    ∃ leaf, leaf ∈ node.leaves := by
  induction filed with
  | page name url => exact ⟨_, mem_leaves_page⟩
  | directory name filled sorted below inductionHypothesis =>
      obtain ⟨child, isChild⟩ := List.exists_mem_of_ne_nil _ filled
      obtain ⟨leaf, isLeaf⟩ := inductionHypothesis child isChild
      exact ⟨_, List.mem_map_of_mem (mem_leavesOf.mpr ⟨child, isChild, isLeaf⟩)⟩

/-- Nothing comes behind a page, and something behind the label of a directory. -/
theorem singleton_not_mem_leaves {label : Value} {children : List Node}
    {segment url : String} : ([segment], url) ∉ (group label children).leaves := by
  intro isLeaf
  exact path_ne_nil_of_mem_leavesOf (mem_leaves_group.mp isLeaf).2 rfl

/-- Sorted nodes have distinct segments. -/
theorem IsSorted.distinct {nodes : List Node} (sorted : IsSorted nodes) :
    (nodes.map segment).Nodup :=
  List.pairwise_map.mpr (sorted.imp fun before => ne_of_lt before)

/-- No node stands twice among sorted ones. -/
theorem IsSorted.nodup {nodes : List Node} (sorted : IsSorted nodes) : nodes.Nodup :=
  List.Nodup.of_map segment sorted.distinct

/-- Siblings in the order of their segments. -/
def bySegment (nodes : List Node) : List Node :=
  nodes.mergeSort fun left right => decide (left.segment ≤ right.segment)

/-- Sorting nodes by segment loses none. -/
theorem bySegment_perm (nodes : List Node) : (bySegment nodes).Perm nodes :=
  List.mergeSort_perm _ _

/-- Siblings with distinct segments can be sorted. -/
theorem isSorted_bySegment {nodes : List Node} (distinct : (nodes.map segment).Nodup) :
    IsSorted (bySegment nodes) := by
  have weakly := @List.pairwise_mergeSort Node
    (fun left right => decide (left.segment ≤ right.segment))
    (fun _ _ _ => by simpa using le_trans) (fun _ _ => by simpa using le_total _ _) nodes
  rw [← ((bySegment_perm nodes).map segment).nodup_iff, List.nodup_iff_pairwise_ne,
    List.pairwise_map] at distinct
  exact (weakly.and distinct).imp fun both => lt_of_le_of_ne (of_decide_eq_true both.1) both.2

/-- Sorted siblings are determined by which they are. -/
theorem IsSorted.eq_of_mem_iff {left right : List Node} (leftSorted : IsSorted left)
    (rightSorted : IsSorted right) (same : ∀ node, node ∈ left ↔ node ∈ right) : left = right := by
  have perm := (List.perm_ext_iff_of_nodup leftSorted.nodup rightSorted.nodup).mpr same
  exact perm.eq_of_pairwise (fun _ _ _ _ before behind => absurd behind (lt_asymm before))
    leftSorted rightSorted

/-- The leaves of a node are those of its level that start with its segment. -/
theorem IsSorted.mem_leaves_iff {nodes : List Node} (sorted : IsSorted nodes) {node : Node}
    (isNode : node ∈ nodes) {leaf : List String × String} :
    leaf ∈ node.leaves ↔ leaf ∈ leavesOf nodes ∧ leaf.1.head? = some node.segment := by
  constructor
  · exact fun isLeaf => ⟨mem_leavesOf.mpr ⟨node, isNode, isLeaf⟩, head?_of_mem_leaves isLeaf⟩
  · rintro ⟨isLeaf, startsHere⟩
    obtain ⟨other, isOther, isBelow⟩ := mem_leavesOf.mp isLeaf
    rw [head?_of_mem_leaves isBelow, Option.some.injEq] at startsHere
    rwa [List.inj_on_of_nodup_map sorted.distinct isNode isOther startsHere.symm]

/-- What is collected below sorted siblings has no duplicates, where each item starts with the
segment it is found below. -/
theorem IsSorted.nodup_flatMap {α : Type} {nodes : List Node} (sorted : IsSorted nodes)
    {collect : Node → List α} {start : α → Option String}
    (starts : ∀ node item, item ∈ collect node → start item = some node.segment)
    (below : ∀ node ∈ nodes, (collect node).Nodup) : (nodes.flatMap collect).Nodup := by
  rw [List.nodup_flatMap]
  refine ⟨below, sorted.imp fun {left right} before item isLeft isRight => ?_⟩
  have same := (starts left item isLeft).symm.trans (starts right item isRight)
  exact ne_of_lt before (Option.some.inj same)

/-- Each page of a directory or a level is one leaf. -/
theorem IsSorted.nodup_leavesOf {nodes : List Node} (sorted : IsSorted nodes)
    (below : ∀ node ∈ nodes, node.leaves.Nodup) : (leavesOf nodes).Nodup := by
  rw [leavesOf_eq_flatMap]
  exact sorted.nodup_flatMap (fun _ _ => head?_of_mem_leaves) below

/-- No leaf of a filed node occurs twice. -/
theorem IsFiled.nodup_leaves {node : Node} (filed : node.IsFiled) : node.leaves.Nodup := by
  induction filed with
  | page name url => exact List.nodup_singleton _
  | directory name filled sorted below inductionHypothesis =>
      refine (sorted.nodup_leavesOf inductionHypothesis).map ?_
      intro left right same
      simpa [Prod.ext_iff] using same

/-- No leaf of a level occurs twice. -/
theorem IsFileLevel.nodup_leavesOf {nodes : List Node} (level : IsFileLevel nodes) :
    (leavesOf nodes).Nodup :=
  level.sorted.nodup_leavesOf fun node isNode => (level.filed node isNode).nodup_leaves

/-- A node stands for a segment of every level that has its leaves. -/
theorem IsFiled.exists_segment {node : Node} (filed : node.IsFiled) {nodes : List Node}
    (among : ∀ leaf ∈ node.leaves, leaf ∈ leavesOf nodes) :
    ∃ other ∈ nodes, node.segment = other.segment := by
  obtain ⟨leaf, isLeaf⟩ := filed.exists_leaf
  obtain ⟨other, isOther, isBelow⟩ := mem_leavesOf.mp (among leaf isLeaf)
  have starts := (head?_of_mem_leaves isLeaf).symm.trans (head?_of_mem_leaves isBelow)
  exact ⟨other, isOther, Option.some.inj starts⟩

/-- Levels with the same leaves are the same where their nodes are determined by theirs. -/
theorem IsFileLevel.eq_of_determined {left right : List Node} (leftLevel : IsFileLevel left)
    (rightLevel : IsFileLevel right)
    (determined : ∀ node ∈ left, ∀ other : Node, other.IsFiled →
      (∀ leaf, leaf ∈ node.leaves ↔ leaf ∈ other.leaves) → node = other)
    (same : ∀ leaf, leaf ∈ leavesOf left ↔ leaf ∈ leavesOf right) : left = right := by
  have pair : ∀ node ∈ left, ∀ other ∈ right, node.segment = other.segment → node = other := by
    intro node isNode other isOther sameSegment
    refine determined node isNode other (rightLevel.filed other isOther) fun leaf => ?_
    rw [leftLevel.sorted.mem_leaves_iff isNode, rightLevel.sorted.mem_leaves_iff isOther, same,
      sameSegment]
  refine leftLevel.sorted.eq_of_mem_iff rightLevel.sorted fun node =>
    ⟨fun isNode => ?_, fun isNode => ?_⟩
  · obtain ⟨other, isOther, sameSegment⟩ := (leftLevel.filed node isNode).exists_segment
      fun leaf isLeaf => (same leaf).mp (mem_leavesOf.mpr ⟨node, isNode, isLeaf⟩)
    rwa [pair node isNode other isOther sameSegment]
  · obtain ⟨other, isOther, sameSegment⟩ := (rightLevel.filed node isNode).exists_segment
      fun leaf isLeaf => (same leaf).mpr (mem_leavesOf.mpr ⟨node, isNode, isLeaf⟩)
    rwa [← pair other isOther node isNode sameSegment.symm]

/-- A directory or page is determined by its leaves. -/
theorem IsFiled.eq_of_leaves {node other : Node} (filed : node.IsFiled) (otherFiled : other.IsFiled)
    (same : ∀ leaf, leaf ∈ node.leaves ↔ leaf ∈ other.leaves) : node = other := by
  induction filed generalizing other with
  | page name url =>
      have isLeaf := (same ([name], url)).mp mem_leaves_page
      cases otherFiled with
      | page => simp_all [leaves]
      | directory => exact absurd isLeaf singleton_not_mem_leaves
  | @directory name children filled sorted below inductionHypothesis =>
      cases otherFiled with
      | page otherName url =>
          have isLeaf := (same ([otherName], url)).mpr mem_leaves_page
          exact absurd isLeaf singleton_not_mem_leaves
      | @directory otherName others _ othersSorted othersBelow =>
          obtain ⟨other, isOther, sameName⟩ :=
            (IsFiled.directory name filled sorted below).exists_segment fun leaf isLeaf =>
              mem_leavesOf.mpr ⟨_, List.mem_singleton_self _, (same leaf).mp isLeaf⟩
          obtain rfl := List.mem_singleton.mp isOther
          change name = otherName at sameName
          subst sameName
          have level : IsFileLevel children := ⟨sorted, below⟩
          have sameBelow := level.eq_of_determined ⟨othersSorted, othersBelow⟩
            (fun child isChild other filed => inductionHypothesis child isChild filed)
            fun leaf => by simpa [mem_leaves_group] using same (name :: leaf.1, leaf.2)
          rw [sameBelow]

/-- A level of a file tree is determined by its leaves. -/
theorem IsFileLevel.eq_of_leaves {left right : List Node} (leftLevel : IsFileLevel left)
    (rightLevel : IsFileLevel right)
    (same : ∀ leaf, leaf ∈ leavesOf left ↔ leaf ∈ leavesOf right) : left = right :=
  leftLevel.eq_of_determined rightLevel
    (fun node isNode _ => (leftLevel.filed node isNode).eq_of_leaves) same

end DocAtlas.Node
