import DocAtlas.Proofs.Tree.FileTree
import DocAtlas.Tree.OpenBranch
import Mathlib.Data.List.Infix

/-!
# Branches of files

The keys to open for a file are cut from its relative name, the file tree is grown from all
of them and then sorted. This module shows that the keys name the nodes on the way from the
group of the files down to the page of the file, and that no two pages have one key, since
the segments that a key joins hold no slash.
-/

namespace DocAtlas

namespace Text

/-- The separator is in no part of a text that is cut at it. -/
theorem not_mem_splitChars {separator : Char} {chars part : List Char}
    (isPart : part ∈ splitChars separator chars) : separator ∉ part := by
  induction chars generalizing part with
  | nil =>
      rw [List.mem_singleton.mp isPart]
      exact List.not_mem_nil
  | cons c rest inductionHypothesis =>
      unfold splitChars at isPart
      by_cases isSeparator : c = separator
      · rw [if_pos isSeparator] at isPart
        rcases List.mem_cons.mp isPart with rfl | isLater
        · exact List.not_mem_nil
        · exact inductionHypothesis isLater
      · rw [if_neg isSeparator] at isPart
        have apart : separator ≠ c := Ne.symm isSeparator
        cases splits : splitChars separator rest with
        | nil =>
            rw [splits] at isPart
            rw [List.mem_singleton.mp isPart]
            exact List.not_mem_cons_of_ne_of_not_mem apart List.not_mem_nil
        | cons first parts =>
            rw [splits] at isPart inductionHypothesis
            rcases List.mem_cons.mp isPart with rfl | isLater
            · exact List.not_mem_cons_of_ne_of_not_mem apart
                (inductionHypothesis List.mem_cons_self)
            · exact inductionHypothesis (List.mem_cons_of_mem _ isLater)

/-- No segment of a path holds a slash. -/
theorem slash_not_mem_segment {path segment : String} (isSegment : segment ∈ segments path) :
    '/' ∉ segment.toList := by
  obtain ⟨part, isNaming, rfl⟩ := List.mem_map.mp isSegment
  rw [String.toList_ofList]
  exact not_mem_splitChars (List.mem_filter.mp isNaming).1

/-- Segments without slashes are told apart by their joined form. -/
theorem joinSegments_inj {left right : List String} (leftGiven : left ≠ [])
    (rightGiven : right ≠ [])
    (leftFree : ∀ segment ∈ left, '/' ∉ segment.toList)
    (rightFree : ∀ segment ∈ right, '/' ∉ segment.toList)
    (same : joinSegments left = joinSegments right) : left = right := by
  have split {parts : List String} (given : parts ≠ [])
      (free : ∀ segment ∈ parts, '/' ∉ segment.toList) :
      (joinSegments parts).toList.splitOn '/' = parts.map String.toList := by
    rw [joinSegments, String.toList_intercalate]
    exact List.splitOn_intercalate '/' (by simpa using free) (by simpa using given)
  have sameParts := (split leftGiven leftFree).symm.trans (same ▸ split rightGiven rightFree)
  exact List.map_injective_iff.mpr (fun _ _ => String.toList_inj.mp) sameParts

end Text

/-- The beginnings of a list are its prefixes but the empty one. -/
theorem inits_eq_beginnings {α : Type} (items : List α) : items.inits = [] :: beginnings items := by
  induction items with
  | nil => rfl
  | cons item rest inductionHypothesis =>
      rw [List.inits_cons, inductionHypothesis, beginnings, List.map_cons]

/-- The keys of a file are the joined beginnings of its path behind the label. -/
theorem fileKeys_eq (label : String) (segments : List String) :
    fileKeys label segments = (label :: segments).inits.tail.map Text.joinSegments := by
  rw [List.inits_cons, List.tail_cons, inits_eq_beginnings, List.map_cons, List.map_cons,
    List.map_map]
  have nonempty : ∀ beginning ∈ beginnings segments, beginning ≠ [] := by
    intro beginning isBeginning
    induction segments generalizing beginning with
    | nil => exact absurd isBeginning List.not_mem_nil
    | cons segment rest inductionHypothesis =>
        rcases List.mem_cons.mp isBeginning with rfl | isLonger
        · exact List.cons_ne_nil _ _
        · obtain ⟨shorter, -, rfl⟩ := List.mem_map.mp isLonger
          exact List.cons_ne_nil _ _
  refine congrArg (label :: ·) (List.map_congr_left fun beginning isBeginning => ?_)
  exact (String.intercalate_cons_of_ne_nil (nonempty beginning isBeginning)).symm

namespace Node

/-- The nodes met from a directory or page down to a page: directories, each followed by one of
its children, and the page at the end. -/
inductive LeadsDown : Node → List Node → Prop where
  | page (name : Value) (url : String) : LeadsDown (.page name url) [.page name url]
  | directory {label : Value} {children way : List Node} {child : Node}
      (isChild : child ∈ children) (further : LeadsDown child way) :
      LeadsDown (.group label children) (.group label children :: way)

/-- The keys met on a way: for each node the labels from the start of the way down to it, with
slashes between them. -/
def keysOn (way : List Node) : List String :=
  way.inits.tail.map fun met => Text.joinSegments (met.map segment)

/-- The keys on a way are the joined beginnings of its segments. -/
theorem keysOn_eq (way : List Node) :
    keysOn way = (way.map segment).inits.tail.map Text.joinSegments := by
  rw [keysOn, List.map_inits, ← List.map_tail, List.map_map]
  rfl

namespace LeadsDown

variable {node : Node} {way : List Node}

/-- A way down starts at its node. -/
theorem head?_eq (leads : node.LeadsDown way) : way.head? = some node := by
  cases leads <;> rfl

/-- A way leads to a leaf, whose path are the labels on the way. -/
theorem mem_leaves (leads : node.LeadsDown way) :
    ∃ name url, way.getLast? = some (.page name url) ∧ (way.map segment, url) ∈ node.leaves := by
  induction leads with
  | page name url => exact ⟨name, url, rfl, mem_leaves_page⟩
  | @directory label children way child isChild further inductionHypothesis =>
      obtain ⟨name, url, ends, isLeaf⟩ := inductionHypothesis
      refine ⟨name, url, by rw [List.getLast?_cons, ends]; rfl, ?_⟩
      rw [List.map_cons, mem_leaves_group]
      exact ⟨rfl, mem_leavesOf.mpr ⟨child, isChild, isLeaf⟩⟩

/-- The labels on a way decide which way it is. -/
theorem unique (filed : node.IsFiled) (leads : node.LeadsDown way) {other : List Node}
    (otherLeads : node.LeadsDown other) (same : way.map segment = other.map segment) :
    way = other := by
  induction leads generalizing other with
  | page => cases otherLeads with | page => rfl
  | @directory label children way child isChild further inductionHypothesis =>
      cases otherLeads with
      | @directory _ _ others otherChild isOther otherFurther =>
          cases filed with
          | directory _ _ sorted below =>
              have sameBelow := (List.cons.inj same).2
              have sameSegment : child.segment = otherChild.segment := by
                have heads := congrArg List.head? sameBelow
                rw [List.head?_map, List.head?_map, further.head?_eq,
                  otherFurther.head?_eq] at heads
                exact Option.some.inj heads
              obtain rfl := List.inj_on_of_nodup_map sorted.distinct isChild isOther sameSegment
              rw [inductionHypothesis (below child isChild) otherFurther sameBelow]

end LeadsDown

/-- A way leads to every leaf of a directory or page. -/
theorem IsFiled.exists_leadsDown {node : Node} (filed : node.IsFiled) {path : List String}
    {url : String} (isLeaf : (path, url) ∈ node.leaves) :
    ∃ way name, node.LeadsDown way ∧ way.getLast? = some (.page (.text name) url) ∧
      way.map segment = path := by
  induction filed generalizing path with
  | page name other =>
      obtain ⟨rfl, rfl⟩ := Prod.mk.inj (List.mem_singleton.mp isLeaf)
      exact ⟨_, name, .page _ _, rfl, rfl⟩
  | @directory name children filled sorted below inductionHypothesis =>
      obtain ⟨⟨rest, _⟩, isBelow, same⟩ := List.mem_map.mp isLeaf
      obtain ⟨rfl, rfl⟩ := Prod.mk.inj same
      obtain ⟨child, isChild, isChildLeaf⟩ := mem_leavesOf.mp isBelow
      obtain ⟨way, pageName, leads, ends, labels⟩ := inductionHypothesis child isChild isChildLeaf
      refine ⟨_, pageName, .directory isChild leads, by rw [List.getLast?_cons, ends]; rfl, ?_⟩
      rw [List.map_cons, labels]
      rfl

end Node

namespace Graph

/-- A way from the group of the files down to the page of a file: the labels on it are that of
the group and the segments of the file, and the page has the address of the file. -/
structure LeadsToFile (graph : Graph) (label : String) (group : Node) (id : EntityId)
    (way : List Node) : Prop where
  leads : group.LeadsDown way
  labels : way.map Node.segment = label :: graph.segments id
  ends : ∃ name, way.getLast? = some (.page name (graph.address id))

variable {graph : Graph} {id : EntityId} {label : String}

/-- The keys to open for a file join the label and the segments of the file. -/
theorem openKeys_of_file (isFile : (graph.entity id).kind = .file) (texts : graph.HasTexts id)
    (label : String) :
    graph.openKeys id (.text label) =
      .ok (((label :: graph.segments id).inits.tail.map Text.joinSegments).map .text) := by
  have noNamespace : ¬ graph.isNamespace id = true := by
    simp [isNamespace, isFile, Kind.isNamespace]
  obtain ⟨written, relativeName⟩ := texts.exists_relativeName
  rw [← fileKeys_eq, openKeys, if_neg noNamespace, segments, relativeName]
  rfl

/-- The last key to open for a file joins them all. -/
theorem leafKey_eq (isFile : (graph.entity id).kind = .file) (texts : graph.HasTexts id)
    (label : String) :
    (graph.openKeys id (.text label)).map List.getLast? =
      .ok (some (.text (Text.joinSegments (label :: graph.segments id)))) := by
  have last : (label :: graph.segments id).inits.tail.getLast? =
      some (label :: graph.segments id) := by
    rw [List.inits_cons, List.tail_cons, List.getLast?_map, List.getLast?_eq_getElem?]
    simp
  rw [openKeys_of_file isFile texts, Except.map, List.getLast?_map, List.getLast?_map, last]
  rfl

/-- Files with different paths have different last keys. -/
theorem leafKey_ne {other : EntityId} (isFile : (graph.entity id).kind = .file)
    (otherIsFile : (graph.entity other).kind = .file) (texts : graph.HasTexts id)
    (otherTexts : graph.HasTexts other) (given : graph.segments id ≠ [])
    (otherGiven : graph.segments other ≠ []) (differ : graph.segments id ≠ graph.segments other) :
    (graph.openKeys id (.text label)).map List.getLast? ≠
      (graph.openKeys other (.text label)).map List.getLast? := by
  rw [leafKey_eq isFile texts, leafKey_eq otherIsFile otherTexts]
  intro same
  have sameKey := Value.text.inj (Option.some.inj (Except.ok.inj same))
  unfold Text.joinSegments at sameKey
  -- The label may hold slashes of its own, so it is taken off before the keys are cut.
  rw [String.intercalate_cons_of_ne_nil given, String.intercalate_cons_of_ne_nil otherGiven,
    String.append_right_inj] at sameKey
  exact differ (Text.joinSegments_inj given otherGiven (fun _ => Text.slash_not_mem_segment)
    (fun _ => Text.slash_not_mem_segment) sameKey)

section Several

variable {files : List EntityId} (several : 2 ≤ files.length)
  (texts : ∀ id ∈ files, graph.HasTexts id)
  (areFiles : ∀ id ∈ files, (graph.entity id).kind = .file)
include several texts areFiles

/-- Whenever several files have a file tree, the keys to open for a file are those met on the way
down to its page: that of the group, one for each directory passed, and one for the page. One way
leads to the page of each file, every page is that of a file, and no two files have the same key
for their pages. -/
theorem openKeys_follow_fileTree {nodes : List Node}
    (built : graph.fileTree files (.text label) = .ok nodes) :
    ∃ group, nodes = [group] ∧
      (∀ id ∈ files, ∃! way, graph.LeadsToFile label group id way) ∧
      (∀ id ∈ files, ∀ way, graph.LeadsToFile label group id way →
        graph.openKeys id (.text label) = .ok ((Node.keysOn way).map .text)) ∧
      (∀ way, group.LeadsDown way → ∃ id ∈ files, graph.LeadsToFile label group id way) ∧
      files.Pairwise fun left right =>
        (graph.openKeys left (.text label)).map List.getLast? ≠
          (graph.openKeys right (.text label)).map List.getLast? := by
  obtain ⟨fit, children, rfl, level, leaves⟩ := group_of_fileTree several texts built
  have isLeaf (leaf : List String × String) : leaf ∈ Node.leavesOf children ↔
      ∃ id ∈ files, (graph.segments id, graph.address id) = leaf := by
    rw [leaves.mem_iff, List.mem_map]
  have filed : (Node.group (.text label) children).IsFiled := by
    refine .directory label ?_ level.sorted level.filed
    rintro rfl
    have none := leaves.length_eq
    rw [List.length_map] at none
    have : (Node.leavesOf []).length = 0 := rfl
    omega
  refine ⟨_, rfl, fun id isFile => ?_, fun id isFile way leads => ?_, fun way leads => ?_, ?_⟩
  · have isBelow := (isLeaf _).mpr ⟨id, isFile, rfl⟩
    obtain ⟨way, name, leads, ends, labels⟩ :=
      filed.exists_leadsDown (Node.mem_leaves_group.mpr ⟨rfl, isBelow⟩)
    refine ⟨way, ⟨leads, labels, _, ends⟩, fun other otherLeads => ?_⟩
    exact otherLeads.leads.unique filed leads (otherLeads.labels.trans labels.symm)
  · rw [Node.keysOn_eq, leads.labels]
    exact openKeys_of_file (areFiles id isFile) (texts id isFile) label
  · obtain ⟨name, url, ends, isPage⟩ := leads.mem_leaves
    obtain ⟨⟨path, _⟩, isBelow, same⟩ := List.mem_map.mp isPage
    obtain ⟨labels, rfl⟩ := Prod.mk.inj same
    obtain ⟨id, isFile, isFileLeaf⟩ := (isLeaf _).mp isBelow
    obtain ⟨rfl, rfl⟩ := Prod.mk.inj isFileLeaf
    exact ⟨id, isFile, leads, labels.symm, name, ends⟩
  · obtain ⟨given, apart⟩ := not_collide_iff.mp fit
    refine apart.imp_of_mem fun {left right} isLeft isRight apart => ?_
    exact leafKey_ne (areFiles left isLeft) (areFiles right isRight) (texts left isLeft)
      (texts right isRight) (given left isLeft) (given right isRight)
      fun same => apart.1 (same ▸ List.prefix_rfl)

end Several

/-- The shelf has a file tree, and the keys of its file `lib//item.rb` are met on the way to the
page of the file. -/
theorem shelf_openKeys_follow :
    2 ≤ [0, 1, 2].length ∧ (∀ id ∈ [0, 1, 2], shelf.HasTexts id) ∧
      (∀ id ∈ [0, 1, 2], (shelf.entity id).kind = .file) ∧
      ∃ group way, shelf.fileTree [0, 1, 2] (.text "files") = .ok [group] ∧
        shelf.LeadsToFile "files" group 2 way ∧
        shelf.openKeys 2 (.text "files") = .ok ((Node.keysOn way).map .text) ∧
        Node.keysOn way = ["files", "files/lib", "files/lib/item.rb"] := by
  have texts : ∀ id ∈ [0, 1, 2], shelf.HasTexts id := by
    simp only [List.forall_mem_cons]
    exact ⟨⟨rfl, rfl⟩, ⟨rfl, rfl⟩, ⟨rfl, rfl⟩, by simp⟩
  have areFiles : ∀ id ∈ [0, 1, 2], (shelf.entity id).kind = .file := by decide
  have fit : ¬ shelf.Collide [0, 1, 2] := by
    rw [not_collide_iff]
    unfold FileTrie.Apart
    decide
  obtain ⟨children, built, -⟩ := fileTree_of_not_collide (by decide) texts (.text "files") fit
  obtain ⟨group, isGroup, ways, follow, -⟩ :=
    openKeys_follow_fileTree (by decide) texts areFiles built
  obtain ⟨way, leads, -⟩ := ways 2 (by decide)
  rw [isGroup] at built
  refine ⟨by decide, texts, areFiles, group, way, built, leads, follow 2 (by decide) way leads, ?_⟩
  rw [Node.keysOn_eq, leads.labels]
  decide

end Graph

end DocAtlas
