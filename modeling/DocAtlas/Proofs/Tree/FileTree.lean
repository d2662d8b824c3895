import DocAtlas.Proofs.Tree.Additions
import DocAtlas.Proofs.Tree.FileNodes

/-!
# File trees

Files whose relative names and paths are texts are added one after another. They have a file
tree unless one of their paths is empty or in front of another one; its leaves are the files,
and their order does not matter.
-/

namespace DocAtlas

open FileTrie

namespace Graph

/-- The relative name and the path of a file are texts. -/
structure HasTexts (graph : Graph) (id : EntityId) : Prop where
  relativeName : (graph.entity id).relativeName.isText = true
  path : (graph.entity id).path.isText = true

/-- A file with texts has a text for its relative name. -/
theorem HasTexts.exists_relativeName {graph : Graph} {id : EntityId} (texts : graph.HasTexts id) :
    ∃ written, (graph.entity id).relativeName = .text written := by
  have isText := texts.relativeName
  cases relativeName : (graph.entity id).relativeName with
  | text written => exact ⟨written, rfl⟩
  | _ => simp [relativeName, Value.isText] at isText

/-- The segments of the relative name of a file. -/
def segments (graph : Graph) (id : EntityId) : List String :=
  Text.segments (graph.entity id).relativeName.display

/-- The address of a file. -/
def address (graph : Graph) (id : EntityId) : String :=
  (graph.entity id).path.display

/-- What is added for a file. -/
def addition (graph : Graph) (id : EntityId) : Addition where
  path := .whole (graph.entity id).relativeName.display
  url := graph.address id

/-- One of the files has an empty path, or the path of one file is the path of another one
or in front of it. -/
def Collide (graph : Graph) (files : List EntityId) : Prop :=
  (∃ id ∈ files, graph.segments id = []) ∨
    ∃ left right, [left, right].Sublist files ∧
      (graph.segments left <+: graph.segments right ∨ graph.segments right <+: graph.segments left)

/-- Files do not collide when none has an empty path and all paths are apart. -/
theorem not_collide_iff {graph : Graph} {files : List EntityId} :
    ¬ graph.Collide files ↔ (∀ id ∈ files, graph.segments id ≠ []) ∧
      files.Pairwise fun left right => Apart (graph.segments left) (graph.segments right) := by
  rw [List.pairwise_iff_forall_sublist]
  simp only [Collide, Apart, not_or, not_exists, not_and]

/-- The order of files does not decide whether they collide. -/
theorem not_collide_of_perm {graph : Graph} {files others : List EntityId}
    (perm : others.Perm files) (fit : ¬ graph.Collide files) : ¬ graph.Collide others := by
  rw [not_collide_iff] at fit ⊢
  refine ⟨fun id isFile => fit.1 id (perm.mem_iff.mp isFile), ?_⟩
  exact (perm.pairwise_iff fun apart => ⟨apart.2, apart.1⟩).mpr fit.2

/-- Files that can be added behind others. -/
structure Fit (graph : Graph) (added : List Addition) (files : List EntityId) : Prop where
  apart : ∀ earlier ∈ added, ∀ id ∈ files, Apart earlier.segments (graph.segments id)
  among : ¬ graph.Collide files

/-- The first file has to go in, and the rest of them behind it. -/
theorem fit_cons_iff {graph : Graph} {added : List Addition} {id : EntityId}
    {rest : List EntityId} :
    graph.Fit added (id :: rest) ↔
      (graph.segments id ≠ [] ∧ ∀ earlier ∈ added, Apart earlier.segments (graph.segments id)) ∧
        graph.Fit (added ++ [graph.addition id]) rest := by
  have isPath : (graph.addition id).segments = graph.segments id := rfl
  constructor
  · rintro ⟨apart, among⟩
    rw [not_collide_iff, List.forall_mem_cons, List.pairwise_cons] at among
    obtain ⟨⟨nonempty, restNonempty⟩, apartFromRest, restApart⟩ := among
    refine ⟨⟨nonempty, fun earlier isAdded => apart earlier isAdded id List.mem_cons_self⟩, ?_,
      not_collide_iff.mpr ⟨restNonempty, restApart⟩⟩
    intro earlier isAdded other isOther
    rcases List.mem_append.mp isAdded with isEarlier | isLast
    · exact apart earlier isEarlier other (List.mem_cons_of_mem _ isOther)
    · rw [List.mem_singleton.mp isLast, isPath]
      exact apartFromRest other isOther
  · rintro ⟨⟨nonempty, isFree⟩, apart, among⟩
    rw [not_collide_iff] at among
    refine ⟨fun earlier isAdded other isOther => ?_, ?_⟩
    · rcases List.mem_cons.mp isOther with rfl | isRest
      · exact isFree earlier isAdded
      · exact apart earlier (List.mem_append_left _ isAdded) other isRest
    · rw [not_collide_iff, List.forall_mem_cons, List.pairwise_cons]
      refine ⟨⟨nonempty, among.1⟩, fun other isOther => ?_, among.2⟩
      exact apart (graph.addition id) (by simp) other isOther

/-- One file is added before the rest of them. -/
theorem addFiles_cons {graph : Graph} {id : EntityId} (texts : graph.HasTexts id)
    (rest : List EntityId) (entries : Entries) :
    graph.addFiles (id :: rest) entries =
      ((graph.addition id).perform entries).2 >>= fun _ =>
        graph.addFiles rest ((graph.addition id).perform entries).1 := by
  have addressedByText := texts.path
  obtain ⟨written, relativeName⟩ := texts.exists_relativeName
  rw [Addition.perform_eq, addFiles]
  unfold addition address Addition.segments GivenPath.segments
  dsimp only
  rw [relativeName]
  cases path : (graph.entity id).path <;> simp [path, Value.isText] at addressedByText
  rfl

/-- Files that fit are all added, and others are refused. -/
theorem addFiles_outcome {graph : Graph} {files : List EntityId}
    (texts : ∀ id ∈ files, graph.HasTexts id) {entries : Entries} {added : List Addition}
    (holds : Addition.Hold entries added) :
    (graph.Fit added files ∧ ∃ changed, graph.addFiles files entries = .ok changed ∧
        Addition.Hold changed (added ++ files.map graph.addition)) ∨
      (¬ graph.Fit added files ∧ ∃ fault, graph.addFiles files entries = refuse fault) := by
  induction files generalizing entries added with
  | nil =>
      refine .inl ⟨⟨by simp, by simp [not_collide_iff]⟩, entries, rfl, ?_⟩
      simpa using holds
  | cons id rest inductionHypothesis =>
      rw [List.forall_mem_cons] at texts
      rw [fit_cons_iff, addFiles_cons texts.1]
      rcases holds.outcome (graph.addition id) with
        ⟨isFree, changed, performed, holdsOn⟩ | ⟨isTaken, fault, performed⟩
      · rw [performed]
        have further := inductionHypothesis texts.2 holdsOn
        rw [List.append_assoc, List.singleton_append] at further
        rcases further with ⟨fit, outcome⟩ | ⟨unfit, outcome⟩
        · exact .inl ⟨⟨isFree, fit⟩, outcome⟩
        · exact .inr ⟨fun both => unfit both.2, outcome⟩
      · rw [performed]
        exact .inr ⟨fun both => isTaken both.1, fault, rfl⟩

/-- Several files are added to an empty trie, whose nodes make the group. -/
theorem fileTree_eq {graph : Graph} {files : List EntityId} (several : 2 ≤ files.length)
    (label : Value) : graph.fileTree files label =
      graph.addFiles files [] >>= fun entries =>
        (FileTrie.toNodes entries).map fun children => [.group label children] := by
  have notLone : ¬ files.length ≤ 1 := by omega
  rw [fileTree, if_neg notLone]
  refine congrArg _ (funext fun entries => ?_)
  cases FileTrie.toNodes entries <;> rfl

section Several

variable {graph : Graph} {files : List EntityId} (several : 2 ≤ files.length)
  (texts : ∀ id ∈ files, graph.HasTexts id)
include several texts

/-- Files that do not collide are the leaves of one group. -/
theorem fileTree_of_not_collide (label : Value) (fit : ¬ graph.Collide files) :
    ∃ children, graph.fileTree files label = .ok [.group label children] ∧
      Node.IsFileLevel children ∧
      (Node.leavesOf children).Perm
        (files.map fun id => (graph.segments id, graph.address id)) := by
  rcases addFiles_outcome texts Addition.hold_nil with ⟨-, entries, added, holds⟩ | ⟨unfit, -⟩
  · obtain ⟨children, made, shows⟩ := holds.proper.toNodes
    refine ⟨children, ?_, shows.level, ?_⟩
    · rw [fileTree_eq several, added, Checked.ok_bind, made]
      rfl
    · have distinct : (files.map fun id => (graph.segments id, graph.address id)).Nodup := by
        rw [List.nodup_iff_pairwise_ne, List.pairwise_map]
        refine (not_collide_iff.mp fit).2.imp fun apart same => apart.1 ?_
        exact (Prod.mk.inj same).1 ▸ List.prefix_rfl
      rw [List.perm_ext_iff_of_nodup shows.level.nodup_leavesOf distinct]
      rintro ⟨path, url⟩
      rw [shows.leaves, holds.pages]
      simp [addition, Addition.segments, GivenPath.segments, segments]
  · exact absurd ⟨by simp, fit⟩ unfit

/-- Files that collide are refused. -/
theorem fileTree_of_collide (label : Value) (collide : graph.Collide files) :
    ∃ fault, graph.fileTree files label = refuse fault := by
  rcases addFiles_outcome texts Addition.hold_nil with ⟨fit, -⟩ | ⟨-, fault, refused⟩
  · exact absurd collide fit.among
  · refine ⟨fault, ?_⟩
    rw [fileTree_eq several, refused]
    rfl

/-- Files that have a file tree do not collide, and the tree is their group. -/
theorem group_of_fileTree {label : Value} {nodes : List Node}
    (built : graph.fileTree files label = .ok nodes) :
    ¬ graph.Collide files ∧ ∃ children, nodes = [.group label children] ∧
      Node.IsFileLevel children ∧
      (Node.leavesOf children).Perm
        (files.map fun id => (graph.segments id, graph.address id)) := by
  by_cases collide : graph.Collide files
  · obtain ⟨fault, refused⟩ := fileTree_of_collide several texts label collide
    rw [refused] at built
    exact absurd built nofun
  · obtain ⟨children, made, group⟩ := fileTree_of_not_collide several texts label collide
    exact ⟨collide, children, Except.ok.inj (built.symm.trans made), group⟩

/-- Several files are refused exactly when they collide. Otherwise their tree is one group:
its leaves are the files, each once, the segments of every level increase strictly, no
directory is empty, and files in any other order have the same tree. -/
theorem fileTree_exact (label : Value) :
    ((∃ failure, graph.fileTree files label = .error failure) ↔ graph.Collide files) ∧
      (¬ graph.Collide files →
        ∃ children, graph.fileTree files label = .ok [.group label children] ∧
          (Node.leavesOf children).Perm
            (files.map fun id => (graph.segments id, graph.address id)) ∧
          Node.IsFileLevel children ∧
          ∀ others : List EntityId, others.Perm files →
            graph.fileTree others label = .ok [.group label children]) := by
  constructor
  · constructor
    · rintro ⟨failure, failed⟩
      by_contra fit
      obtain ⟨children, made, -⟩ := fileTree_of_not_collide several texts label fit
      rw [made] at failed
      exact absurd failed nofun
    · intro collide
      obtain ⟨fault, refused⟩ := fileTree_of_collide several texts label collide
      exact ⟨_, refused⟩
  · intro fit
    obtain ⟨children, made, level, leaves⟩ := fileTree_of_not_collide several texts label fit
    refine ⟨children, made, leaves, level, fun others perm => ?_⟩
    have otherTexts : ∀ id ∈ others, graph.HasTexts id :=
      fun id isFile => texts id (perm.mem_iff.mp isFile)
    obtain ⟨otherChildren, otherMade, otherLevel, otherLeaves⟩ :=
      fileTree_of_not_collide (perm.length_eq ▸ several) otherTexts label
        (not_collide_of_perm perm fit)
    -- Both levels have the files for leaves.
    have sameLeaves := otherLeaves.trans ((perm.map _).trans leaves.symm)
    rw [otherMade, otherLevel.eq_of_leaves level fun leaf => sameLeaves.mem_iff]

end Several

/-- Two files in one directory and one beside it. -/
def shelf : Graph where
  entities :=
    #[{ name := .text "store.rb", fullName := "lib/store.rb", kind := .file,
        path := .text "files/store.html", relativeName := .text "lib/store.rb" },
      { name := .text "README.md", fullName := "README.md", kind := .file,
        path := .text "files/readme.html", relativeName := .text "./README.md" },
      { name := .text "item.rb", fullName := "lib/item.rb", kind := .file,
        path := .text "files/item.html", relativeName := .text "lib//item.rb" }]

/-- The files of the shelf do not collide, and have one tree in every order. -/
theorem shelf_fileTree :
    2 ≤ [0, 1, 2].length ∧ (∀ id ∈ [0, 1, 2], shelf.HasTexts id) ∧ ¬ shelf.Collide [0, 1, 2] ∧
      ∃ children, shelf.fileTree [0, 1, 2] (.text "files") =
          .ok [.group (.text "files") children] ∧
        (Node.leavesOf children).Perm
          [(["lib", "store.rb"], "files/store.html"), (["README.md"], "files/readme.html"),
            (["lib", "item.rb"], "files/item.html")] ∧
        shelf.fileTree [2, 1, 0] (.text "files") =
          .ok [.group (.text "files") children] := by
  have texts : ∀ id ∈ [0, 1, 2], shelf.HasTexts id := by
    simp only [List.forall_mem_cons]
    exact ⟨⟨rfl, rfl⟩, ⟨rfl, rfl⟩, ⟨rfl, rfl⟩, by simp⟩
  have fit : ¬ shelf.Collide [0, 1, 2] := by
    rw [not_collide_iff]
    unfold Apart
    decide
  obtain ⟨children, made, leaves, -, anyOrder⟩ :=
    (fileTree_exact (by decide) texts (.text "files")).2 fit
  exact ⟨by decide, texts, fit, children, made, leaves, anyOrder [2, 1, 0] (by decide)⟩

end Graph

end DocAtlas
