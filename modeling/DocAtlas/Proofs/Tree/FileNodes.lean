import DocAtlas.Proofs.Checked
import DocAtlas.Proofs.Pairing
import DocAtlas.Proofs.Tree.FileLeaves
import DocAtlas.Proofs.Tree.Insertion

/-!
# Nodes of file tries

A proper trie has a level of nodes whose leaves are its pages. Segments are texts, so nothing
fails when the nodes are put in their order.
-/

namespace DocAtlas.FileTrie

/-- A node that shows what stands in a trie behind a segment. -/
structure ShowsBehind (name : String) (trie : FileTrie) (node : Node) : Prop where
  filed : node.IsFiled
  segment : node.segment = name
  leaves : ∀ path url, (path, url) ∈ node.leaves ↔
    ∃ rest, path = name :: rest ∧ page? rest trie = some url

/-- Nodes that show the entries of a directory. -/
structure ShowsBelow (entries : Entries) (nodes : List Node) : Prop where
  level : Node.IsFileLevel nodes
  leaves : ∀ path url, (path, url) ∈ Node.leavesOf nodes ↔
    page? path (.directory entries) = some url

/-- Every entry of a trie gives the node of its trie. -/
theorem entryNodes_eq_map (entries : Entries) :
    entryNodes entries = entries.map fun entry => (entry.1, toNode entry.1 entry.2) := by
  induction entries with
  | nil => rfl
  | cons entry rest inductionHypothesis => rw [entryNodes, inductionHypothesis, List.map_cons]

/-- A node beside its segment. -/
def beside (node : Node) : Value × Checked Node :=
  (.text node.segment, .ok node)

/-- Nodes beside their segments compare by them. -/
theorem mayPrecede_beside (left right : Node) :
    Sorting.mayPrecede isEntryBefore (beside left) (beside right) =
      decide (left.segment ≤ right.segment) := by
  by_cases before : right.segment < left.segment
  · simp [beside, Sorting.mayPrecede, isEntryBefore, Value.compareBefore,
      Value.Comparison.checked, before]
  · simp [beside, Sorting.mayPrecede, isEntryBefore, Value.compareBefore,
      Value.Comparison.checked, before, le_of_not_gt before]

/-- Nodes beside their segments are put in the order of these. -/
theorem inOrder_beside (nodes : List Node) :
    inOrder (nodes.map beside) = .ok (Node.bySegment nodes) := by
  have allText : (nodes.map beside).all (fun item => item.1.isText) = true := by
    simp [beside, Value.isText]
  have sameOrder : (nodes.map beside).mergeSort (Sorting.mayPrecede isEntryBefore) =
      (Node.bySegment nodes).map beside :=
    (List.map_mergeSort fun left _ right _ => (mayPrecede_beside left right).symm).symm
  unfold inOrder Sorting.sortKeyed
  rw [if_pos allText, sameOrder, Except.mapError, Checked.ok_bind, Checked.mapM_eq_ok,
    List.forall₂_map_left_iff, List.forall₂_same]
  exact fun _ _ => rfl

/-- A page below a proper directory stands behind one of its entries. -/
theorem AreProper.page?_eq_some_iff {entries : Entries} (proper : AreProper entries)
    {path : List String} {url : String} :
    page? path (.directory entries) = some url ↔
      ∃ name rest trie, path = name :: rest ∧ (.text name, trie) ∈ entries ∧
        page? rest trie = some url := by
  cases path with
  | nil => simp
  | cons name rest =>
      rw [page?_cons_directory rfl, Option.bind_eq_some_iff]
      constructor
      · rintro ⟨trie, found, isPage⟩
        exact ⟨name, rest, trie, rfl, proper.entry?_eq_some_iff.mp found, isPage⟩
      · rintro ⟨_, _, trie, equal, isEntry, isPage⟩
        obtain ⟨rfl, rfl⟩ := List.cons.inj equal
        exact ⟨trie, proper.entry?_eq_some_iff.mpr isEntry, isPage⟩

/-- A node that stands beside its segment for an entry. -/
structure StandsFor (entry : Value × FileTrie) (node : Node) : Prop where
  segment : entry.1 = .text node.segment
  made : toNode entry.1 entry.2 = .ok node
  shows : ShowsBehind node.segment entry.2 node

section StandsFor

variable {entries : Entries} {nodes : List Node} (inStep : List.Forall₂ StandsFor entries nodes)
include inStep

/-- Nodes that stand for entries are what these are turned into, sorted. -/
theorem toNodes_of_standFor : toNodes entries = .ok (Node.bySegment nodes) := by
  have besides : entryNodes entries = nodes.map beside := by
    rw [entryNodes_eq_map, ← List.forall₂_eq_eq_eq, List.forall₂_map_left_iff,
      List.forall₂_map_right_iff]
    exact inStep.imp fun _ _ pair => Prod.ext pair.segment pair.made
  rw [toNodes, besides, inOrder_beside]

/-- Nodes that stand for proper entries have distinct segments. -/
theorem distinct_of_standFor (proper : AreProper entries) : (nodes.map Node.segment).Nodup := by
  have keys : entries.map Prod.fst = (nodes.map Node.segment).map Value.text := by
    rw [← List.forall₂_eq_eq_eq, List.map_map, List.forall₂_map_left_iff,
      List.forall₂_map_right_iff]
    exact inStep.imp fun _ _ pair => pair.segment
  have distinct := proper.distinct
  rw [keys] at distinct
  exact distinct.of_map

/-- The nodes of proper entries, once sorted, show what stands below. -/
theorem showsBelow_of_standFor (proper : AreProper entries) {sorted : List Node}
    (perm : sorted.Perm nodes) (isSorted : Node.IsSorted sorted) : ShowsBelow entries sorted where
  level := by
    refine ⟨isSorted, fun node isNode => ?_⟩
    obtain ⟨entry, -, pair⟩ := Pairing.exists_left inStep (perm.mem_iff.mp isNode)
    exact pair.shows.filed
  leaves := by
    intro path url
    rw [Node.mem_leavesOf, proper.page?_eq_some_iff]
    constructor
    · rintro ⟨node, isNode, isLeaf⟩
      obtain ⟨⟨key, trie⟩, isEntry, pair⟩ := Pairing.exists_left inStep (perm.mem_iff.mp isNode)
      obtain ⟨rest, isPath, isPage⟩ := (pair.shows.leaves path url).mp isLeaf
      have isText : key = .text node.segment := pair.segment
      exact ⟨node.segment, rest, trie, isPath, isText ▸ isEntry, isPage⟩
    · rintro ⟨name, rest, trie, isPath, isEntry, isPage⟩
      obtain ⟨node, isNode, pair⟩ := Pairing.exists_right inStep isEntry
      have sameName : name = node.segment := Value.text.inj pair.segment
      exact ⟨node, perm.mem_iff.mpr isNode,
        (pair.shows.leaves path url).mpr ⟨rest, sameName ▸ isPath, isPage⟩⟩

end StandsFor

/-- Proper entries that each have a node have a level of nodes. -/
theorem AreProper.toNodes_of_toNode {entries : Entries} (proper : AreProper entries)
    (below : ∀ entry ∈ entries, ∀ name, ∃ node, toNode (.text name) entry.2 = .ok node ∧
      ShowsBehind name entry.2 node) :
    ∃ nodes, toNodes entries = .ok nodes ∧ ShowsBelow entries nodes := by
  have havePartners : ∀ entry ∈ entries, ∃ node, StandsFor entry node := by
    intro entry isEntry
    obtain ⟨name, isText⟩ := proper.named entry isEntry
    obtain ⟨node, made, shows⟩ := below entry isEntry name
    obtain rfl := shows.segment
    exact ⟨node, isText, isText ▸ made, shows⟩
  obtain ⟨nodes, inStep⟩ := Pairing.exists_forall₂ havePartners
  have isSorted := Node.isSorted_bySegment (distinct_of_standFor inStep proper)
  exact ⟨_, toNodes_of_standFor inStep,
    showsBelow_of_standFor inStep proper (Node.bySegment_perm nodes) isSorted⟩

/-- Every proper trie has a node behind a segment. -/
theorem IsProper.toNode {trie : FileTrie} (proper : trie.IsProper) (name : String) :
    ∃ node, toNode (.text name) trie = .ok node ∧ ShowsBehind name trie node := by
  induction proper generalizing name with
  | page url =>
      refine ⟨_, rfl, .page name url, rfl, fun path other => ?_⟩
      rw [Node.leaves, List.mem_singleton]
      constructor
      · rintro equal
        obtain ⟨rfl, rfl⟩ := Prod.mk.inj equal
        exact ⟨[], rfl, rfl⟩
      · rintro ⟨rest, rfl, isPage⟩
        cases rest with
        | nil => rw [Option.some.inj isPage]; rfl
        | cons => simp at isPage
  | @directory entries filled named distinct below inductionHypothesis =>
      have areProper : AreProper entries := ⟨named, distinct, below⟩
      obtain ⟨nodes, made, shows⟩ := areProper.toNodes_of_toNode inductionHypothesis
      obtain ⟨path, isPage⟩ := (IsProper.directory filled named distinct below).exists_page
      refine ⟨.group (.text name) nodes, ?_,
        .directory name ?_ shows.level.sorted shows.level.filed, rfl, fun path url => ?_⟩
      · rw [FileTrie.toNode, ← toNodes, made]
        rfl
      · rintro rfl
        obtain ⟨url, found⟩ := Option.ne_none_iff_exists'.mp isPage
        exact absurd ((shows.leaves path url).mpr found) List.not_mem_nil
      · cases path with
        | nil => simp [Node.leaves]
        | cons segment rest =>
            rw [Node.mem_leaves_group, shows.leaves]
            simp

/-- Proper entries have a level of nodes that shows their pages. -/
theorem AreProper.toNodes {entries : Entries} (proper : AreProper entries) :
    ∃ nodes, toNodes entries = .ok nodes ∧ ShowsBelow entries nodes :=
  proper.toNodes_of_toNode fun entry isEntry => (proper.below entry isEntry).toNode

end DocAtlas.FileTrie
