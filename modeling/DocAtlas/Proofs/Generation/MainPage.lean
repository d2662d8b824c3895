import DocAtlas.Proofs.Generation.Outcome
import DocAtlas.Proofs.Generation.Products
import DocAtlas.Proofs.Tree.FileTree
import Mathlib.Data.List.Permutation

/-!
# Main page

Settings may name the file that becomes the index page. The first file at the named path is
taken, and no other file stands there: a path has the segments that the file tree goes by, so
a second file would have collided with the first. The file tree leaves a lone file out, which
has none beside it. So the order of the files does not decide which of them is taken.
-/

namespace DocAtlas

namespace Graph

/-- A file stands at a path when its relative name spells it. -/
def IsAt (graph : Graph) (id : EntityId) (target : Path) : Prop :=
  Settings.pathOf (graph.entity id).relativeName = .ok target

/-- One of some files stands at a path, and none in front of it or behind it does. -/
def IsOnlyAt (graph : Graph) (files : List EntityId) (id : EntityId) (target : Path) : Prop :=
  ∃ front back, files = front ++ id :: back ∧ graph.IsAt id target ∧
    ∀ other ∈ front ++ back, ¬ graph.IsAt other target

variable {graph : Graph} {files : List EntityId} {id : EntityId} {target : Path}

/-- The segments of a file are the components of the path where it stands. The path also has a
root, which the file tree does not go by. -/
theorem segments_of_isAt (isAt : graph.IsAt id target) : graph.segments id = target.components := by
  unfold IsAt at isAt
  unfold segments
  cases relativeName : (graph.entity id).relativeName with
  | text written =>
      rw [relativeName] at isAt
      cases isAt
      rfl
  | _ =>
      rw [relativeName] at isAt
      exact absurd isAt nofun

/-- Of files that have a file tree no two stand at one path. -/
theorem pairwise_not_isAt {label : Value} {nodes : List Node}
    (texts : ∀ id ∈ files, graph.HasTexts id) (built : graph.fileTree files label = .ok nodes)
    (target : Path) :
    files.Pairwise fun left right => graph.IsAt left target → ¬ graph.IsAt right target := by
  by_cases several : 2 ≤ files.length
  · obtain ⟨fit, -⟩ := group_of_fileTree several texts built
    refine (not_collide_iff.mp fit).2.imp fun {left right} apart isAt otherIsAt => apart.1 ?_
    rw [segments_of_isAt isAt, segments_of_isAt otherIsAt]
  · match files, several with
    | [], _ => exact List.Pairwise.nil
    | [lone], _ => exact List.pairwise_singleton _ lone
    | _ :: _ :: _, several => exact absurd (by simp) several

namespace IsOnlyAt

variable (only : graph.IsOnlyAt files id target)
include only

/-- The only file at a path is there. -/
theorem isAt : graph.IsAt id target := by
  obtain ⟨_, _, -, isAt, -⟩ := only
  exact isAt

/-- The only file at a path is one of the files. -/
theorem mem : id ∈ files := by
  obtain ⟨front, back, rfl, -⟩ := only
  exact List.mem_append_right front List.mem_cons_self

/-- A file that is at the path of the only one is that file. -/
theorem eq_of_isAt {other : EntityId} (isFile : other ∈ files)
    (otherIsAt : graph.IsAt other target) : other = id := by
  obtain ⟨front, back, rfl, -, none⟩ := only
  by_contra differs
  refine none other ?_ otherIsAt
  rw [List.mem_append, List.mem_cons] at isFile
  rw [List.mem_append]
  exact isFile.imp_right fun isLater => isLater.resolve_left differs

end IsOnlyAt

end Graph

namespace Generation

variable {graph : Graph} {files : List EntityId} {id : EntityId} {target : Path}

/-- The file that is found stands at the path, and none in front of it does. -/
theorem fileAt_eq_some (found : fileAt graph target files = .ok (some id)) :
    ∃ front back, files = front ++ id :: back ∧ graph.IsAt id target ∧
      ∀ other ∈ front, ¬ graph.IsAt other target := by
  induction files with
  | nil => exact absurd found nofun
  | cons first rest inductionHypothesis =>
      unfold fileAt at found
      obtain ⟨path, isPath, found⟩ := Checked.bind_eq_ok.mp found
      split at found
      · rename_i here
        cases found
        exact ⟨[], rest, rfl, here ▸ isPath, by simp⟩
      · rename_i elsewhere
        obtain ⟨front, back, rfl, isAt, none⟩ := inductionHypothesis found
        refine ⟨first :: front, back, rfl, isAt, List.forall_mem_cons.mpr ⟨?_, none⟩⟩
        intro firstIsAt
        exact elsewhere (Except.ok.inj (isPath.symm.trans firstIsAt))

/-- Where no two files stand at one path, the file that is found is the only one there. -/
theorem isOnlyAt_of_fileAt
    (apart : files.Pairwise fun left right => graph.IsAt left target → ¬ graph.IsAt right target)
    (found : fileAt graph target files = .ok (some id)) : graph.IsOnlyAt files id target := by
  obtain ⟨front, back, rfl, isAt, none⟩ := fileAt_eq_some found
  refine ⟨front, back, rfl, isAt, fun other isOther => ?_⟩
  rcases List.mem_append.mp isOther with isEarlier | isLater
  · exact none other isEarlier
  · obtain ⟨-, behind, -⟩ := List.pairwise_append.mp apart
    exact (List.pairwise_cons.mp behind).1 other isLater isAt

/-- The only file at a path is found in whatever order the files are searched. -/
theorem fileAt_of_perm (texts : ∀ id ∈ files, graph.HasTexts id)
    (only : graph.IsOnlyAt files id target) {others : List EntityId} (perm : others.Perm files) :
    fileAt graph target others = .ok (some id) := by
  obtain ⟨found, answer, isNone⟩ := @fileAt_eq_ok graph target _
    fun other isOther => (texts other (perm.mem_iff.mp isOther)).exists_relativeName
  cases found with
  | none => exact absurd only.isAt (isNone.mp rfl id (perm.mem_iff.mpr only.mem))
  | some other =>
      obtain ⟨front, back, rfl, otherIsAt, -⟩ := fileAt_eq_some answer
      have isFile : other ∈ files := perm.mem_iff.mp (by simp)
      rw [answer, only.eq_of_isAt isFile otherIsAt]

/-- A named main page is the file that is found at its path. -/
theorem chooseMainPage_eq_ok_iff {wanted : Value} (isNamed : wanted ≠ .null)
    {page : Option Entity} :
    chooseMainPage graph files wanted = .ok page ↔
      ∃ target id, Settings.pathOf wanted = .ok target ∧
        fileAt graph target files = .ok (some id) ∧
        page = some { (graph.entity id).withRelativeName with path := .text "" } := by
  unfold chooseMainPage mainPageId
  split
  · exact absurd rfl isNamed
  constructor
  · intro chosen
    obtain ⟨chosenId, searched, chosen⟩ := Checked.bind_eq_ok.mp chosen
    obtain ⟨target, isTarget, searched⟩ := Checked.bind_eq_ok.mp searched
    obtain ⟨found, answer, searched⟩ := Checked.bind_eq_ok.mp searched
    cases found with
    | none => exact absurd searched nofun
    | some id =>
        cases searched
        cases chosen
        exact ⟨target, id, isTarget, answer, rfl⟩
  · rintro ⟨target, id, isTarget, answer, rfl⟩
    rw [isTarget, Checked.ok_bind, answer]
    rfl

variable {settings : Settings} {collection : Collection} {generation : Generation}

/-- What a run returns was prepared. -/
theorem isPrepared_of_returned {system : FileSystem} {written : List Path}
    (returned : (run settings collection system).2.outcome = .ok (generation, written)) :
    (prepare settings collection).outcome = .ok generation := by
  rw [outcome_run] at returned
  obtain ⟨prepared, isPrepared, returned⟩ := Checked.bind_eq_ok.mp returned
  cases paths : (prepared.write system).2.outcome with
  | error failure =>
      rw [paths] at returned
      exact absurd returned nofun
  | ok _ =>
      rw [paths] at returned
      obtain ⟨rfl, -⟩ := Prod.mk.inj (Except.ok.inj returned)
      exact isPrepared

/-- A run depends on the order of its files no further than their order by full name and the
choice of the index page do. -/
theorem run_of_files {others : List EntityId}
    (sameOrder : collection.graph.byFullName others =
      collection.graph.byFullName collection.files)
    (samePage : chooseMainPage collection.graph others settings.mainPage =
      chooseMainPage collection.graph collection.files settings.mainPage) (system : FileSystem) :
    run settings { collection with files := others } system =
      run settings collection system := by
  have samePreparation :
      prepare settings { collection with files := others } = prepare settings collection := by
    unfold prepare
    dsimp only
    rw [sameOrder, samePage]
  unfold run
  rw [samePreparation]

/-- Whenever a run returns whose settings name a main page, one of the files stands at the named
path, and no other. The index page is a copy of this file with an empty path. In the tree, where
several files have a leaf each, every file keeps its path. In whatever order the same files are
supplied, the run is the same. -/
theorem mainPage_unambiguous {system : FileSystem} {written : List Path}
    (isNamed : settings.mainPage ≠ .null)
    (texts : ∀ id ∈ collection.files, collection.graph.HasTexts id)
    (returned : (run settings collection system).2.outcome = .ok (generation, written)) :
    ∃ target id, Settings.pathOf settings.mainPage = .ok target ∧
      collection.graph.IsOnlyAt collection.files id target ∧
      generation.mainPage = some { collection.graph.entity id with path := .text "" } ∧
      (2 ≤ collection.files.length →
        ∃ children classNodes,
          generation.tree = .group settings.filesLabel children :: classNodes ∧
          (Node.leavesOf children).Perm (collection.files.map fun id =>
            (collection.graph.segments id, collection.graph.address id))) ∧
      ∀ others : List EntityId, others.Perm collection.files →
        run settings { collection with files := others } system =
          run settings collection system := by
  obtain ⟨_, _, fileNodes, classNodes, parts⟩ := exists_isMadeOf (isPrepared_of_returned returned)
  obtain ⟨target, id, isTarget, found, isPage⟩ :=
    (chooseMainPage_eq_ok_iff isNamed).mp parts.page
  obtain ⟨-, filesPass, distinct⟩ := Collection.validate_eq_ok_iff.mp parts.accepted
  have sorting : collection.sorted.files.Perm collection.files := Graph.byFullName_perm _ _
  have sortedTexts : ∀ id ∈ collection.sorted.files, collection.graph.HasTexts id :=
    fun id isFile => texts id (sorting.mem_iff.mp isFile)
  have only : collection.graph.IsOnlyAt collection.files id target := by
    refine isOnlyAt_of_fileAt ((sorting.pairwise_iff fun apart isAt otherIsAt =>
      apart otherIsAt isAt).mp ?_) found
    exact Graph.pairwise_not_isAt sortedTexts parts.fileTree target
  refine ⟨target, id, isTarget, only, ?_, fun several => ?_, fun others perm => ?_⟩
  · -- An accepted file has a relative name, so the copy does not get one.
    have given : (collection.graph.entity id).relativeName.isGiven = true :=
      (Graph.checkFile_eq_ok_iff.mp (filesPass id (sorting.mem_iff.mpr only.mem))).2.2.2
    rw [isPage, Entity.withRelativeName, if_neg (by simp [given])]
  · obtain ⟨-, children, rfl, -, leaves⟩ :=
      Graph.group_of_fileTree (sorting.length_eq ▸ several) sortedTexts parts.fileTree
    exact ⟨children, classNodes, parts.tree, leaves.trans (sorting.map _)⟩
  · have distinctFiles : (collection.files.map collection.graph.fullName).Nodup := by
      rw [List.map_append, List.nodup_append'] at distinct
      exact (sorting.map _).nodup_iff.mp distinct.2.1
    refine run_of_files (Graph.byFullName_of_perm distinctFiles perm) ?_ system
    rw [parts.page]
    exact (chooseMainPage_eq_ok_iff isNamed).mpr
      ⟨target, id, isTarget, fileAt_of_perm texts only perm, isPage⟩

/-- Two files, the first of which is spelled with a detour. -/
def pamphlet : Collection where
  graph :=
    ⟨#[{ name := .text "b.md", fullName := "b.md", kind := .file, path := .text "b.html",
         relativeName := .text "./b.md" },
       { name := .text "a.md", fullName := "a.md", kind := .file, path := .text "a.html",
         relativeName := .text "a.md" }]⟩
  classes := []
  files := [0, 1]

/-- A dry run over the pamphlet returns. Its index page is a copy of the file `./b.md`, which the
settings spell `b.md//`, in both orders of the files, and the tree has the file with its path. -/
theorem pamphlet_mainPage :
    ∃ settings generation written,
      Settings.ofFields [] [("main_page", .text "b.md//"), ("dry_run", .bool true)] =
        .ok settings ∧
      settings.mainPage ≠ .null ∧ (∀ id ∈ pamphlet.files, pamphlet.graph.HasTexts id) ∧
      (run settings pamphlet ⟨[]⟩).2.outcome = .ok (generation, written) ∧
      generation.mainPage = some { pamphlet.graph.entity 0 with path := .text "" } ∧
      (∃ children classNodes, generation.tree = .group settings.filesLabel children :: classNodes ∧
        (["b.md"], "b.html") ∈ Node.leavesOf children) ∧
      run settings { pamphlet with files := [1, 0] } ⟨[]⟩ = run settings pamphlet ⟨[]⟩ := by
  have texts : ∀ id ∈ pamphlet.files, pamphlet.graph.HasTexts id :=
    List.forall_mem_cons.mpr ⟨⟨rfl, rfl⟩, List.forall_mem_singleton.mpr ⟨rfl, rfl⟩⟩
  have sorted : pamphlet.graph.byFullName pamphlet.files = [1, 0] := by cbv
  have built (label : Value) : pamphlet.graph.fileTree [1, 0] label =
      .ok [.group label [.page (.text "a.md") "a.html", .page (.text "b.md") "b.html"]] := by cbv
  obtain ⟨settings, accepted, isNamed, spelled, returns⟩ : ∃ settings,
      Settings.ofFields [] [("main_page", .text "b.md//"), ("dry_run", .bool true)] =
        .ok settings ∧
      settings.mainPage ≠ .null ∧
      Settings.pathOf settings.mainPage = .ok ⟨.none, ["b.md"]⟩ ∧
      (run settings pamphlet ⟨[]⟩).2.outcome.toOption.isSome = true := by
    refine ⟨_, rfl, Value.noConfusion, rfl, ?_⟩
    rw [outcome_run, outcome_prepare]
    dsimp only
    rw [sorted, built]
    decide +kernel
  rcases returned : (run settings pamphlet ⟨[]⟩).2.outcome with failure | ⟨generation, written⟩
  · rw [returned] at returns
    exact Bool.noConfusion returns
  · obtain ⟨target, id, isTarget, only, isPage, tree, anyOrder⟩ :=
      mainPage_unambiguous isNamed texts returned
    obtain rfl := Except.ok.inj (spelled.symm.trans isTarget)
    obtain rfl : 0 = id := only.eq_of_isAt (by decide) rfl
    obtain ⟨children, classNodes, isTree, leaves⟩ := tree (by decide)
    refine ⟨settings, generation, written, accepted, isNamed, texts, returned, isPage,
      ⟨children, classNodes, isTree, leaves.mem_iff.mpr (by decide)⟩, anyOrder [1, 0] (by decide)⟩

end Generation

end DocAtlas
