import DocAtlas.Proofs.Generation.Outcome
import DocAtlas.Proofs.Manifest.Refusal
import DocAtlas.Proofs.Value.Sorting

/-!
# Causes of refusals before writing

A run checks and builds everything before it writes. This module goes through the stages of
the preparation, for collections whose values may have any shape, and finds that none of them
fails because a file could not be written: that cause comes from the writer alone.
-/

namespace DocAtlas

/-- Whether a failure is that a file could not be written. -/
def Failure.isOfWriting : Failure → Bool
  | .fault (.unwritable ..) => true
  | _ => false

open Checked

/-- A computation fails, if it does, for another reason than that a file could not be
written. -/
abbrev Checked.SparesWriting {α : Type} (computation : Checked α) : Prop :=
  FailsWithin (fun failure => failure.isOfWriting = false) computation

/-- A misfit is no failure of writing. -/
theorem Checked.sparesWriting_of_misfit {α : Type} (computation : Except Misfit α) :
    SparesWriting (computation.mapError Failure.misfit) := by
  apply FailsWithin.mapError
  intro misfit
  rfl

/-- A fault of the entities is none of writing. -/
theorem Checked.BlamesEntities.sparesWriting {α : Type} {computation : Checked α}
    (blames : BlamesEntities computation) : SparesWriting computation := by
  refine FailsWithin.mono blames ?_
  rintro _ ⟨cause, rfl, isOfEntity⟩
  cases cause <;> first
    | rfl
    | cases isOfEntity

/-- Reading a path from a value does not fail for writing. -/
theorem Settings.pathOf_sparesWriting (value : Value) : SparesWriting (pathOf value) := by
  cases value <;> first
    | exact .ok _
    | exact .error rfl

/-- Finding a file below the output directory does not fail for writing. -/
theorem Settings.below_sparesWriting (settings : Settings) (file : String) :
    SparesWriting (settings.below file) :=
  (pathOf_sparesWriting settings.outputDir).bind fun _ _ => .ok _

namespace FileTrie

/-- A collision of two files is no failure to write. -/
theorem Collision.failure_isOfWriting (path : List Value) (collision : Collision) :
    (collision.failure path).isOfWriting = false := by
  cases collision <;> unfold failure <;> first
    | rfl
    | (dsimp only; split <;> rfl)

/-- Adding a page to a trie does not fail for writing. -/
theorem add_sparesWriting (segments : List Value) (url : Value) (entries : Entries) :
    SparesWriting (add segments url entries).2 := by
  unfold add
  split
  · exact .error rfl
  · exact .mapError (Collision.failure_isOfWriting segments) _

/-- What stands sorted in a level fails as one of its parts. -/
theorem inOrder_sparesWriting {given : List (Value × Checked Node)}
    (parts : ∀ part ∈ given, SparesWriting part.2) : SparesWriting (inOrder given) := by
  refine FailsWithin.bind (sparesWriting_of_misfit _) fun sorted sorts => ?_
  refine .mapM fun part isPart => parts part ?_
  cases result : Sorting.sortKeyed (·.1) isEntryBefore given with
  | error misfit =>
      rw [result] at sorts
      cases sorts
  | ok others =>
      rw [result] at sorts
      cases sorts
      exact (Sorting.sortKeyed_perm result).mem_iff.mp isPart

mutual

/-- Turning a trie into a node does not fail for writing. -/
theorem toNode_sparesWriting (segment : Value) :
    (trie : FileTrie) → SparesWriting (toNode segment trie)
  | .page url => by
      cases url <;> first
        | exact .ok _
        | exact .error rfl
  | .directory entries => by
      rw [toNode]
      exact (inOrder_sparesWriting (entryNodes_sparesWriting entries)).map _

/-- Turning the entries of a trie into nodes does not fail for writing. -/
theorem entryNodes_sparesWriting :
    (entries : Entries) → ∀ part ∈ entryNodes entries, SparesWriting part.2
  | [] => nofun
  | (segment, trie) :: rest => by
      rw [entryNodes, List.forall_mem_cons]
      exact ⟨toNode_sparesWriting segment trie, entryNodes_sparesWriting rest⟩

end

end FileTrie

/-- Cutting a relative name into segments does not fail for writing. -/
theorem relativeSegments_sparesWriting (value : Value) :
    SparesWriting (relativeSegments value) := by
  unfold relativeSegments
  split
  · exact .ok _
  · split
    · exact .ok _
    · exact .error rfl

namespace Graph

variable (graph : Graph)

/-- Adding files to a trie does not fail for writing. -/
theorem addFiles_sparesWriting (ids : List EntityId) (entries : FileTrie.Entries) :
    SparesWriting (graph.addFiles ids entries) := by
  induction ids generalizing entries with
  | nil => exact .ok entries
  | cons id rest inductionHypothesis =>
      unfold addFiles
      refine (relativeSegments_sparesWriting _).bind fun segments _ => ?_
      exact (FileTrie.add_sparesWriting _ _ _).bind fun _ _ => inductionHypothesis _

/-- Building the tree of files does not fail for writing. -/
theorem fileTree_sparesWriting (files : List EntityId) (label : Value) :
    SparesWriting (graph.fileTree files label) := by
  unfold fileTree
  split
  · exact .ok []
  · refine (graph.addFiles_sparesWriting files []).bind fun entries _ => ?_
    exact (FileTrie.inOrder_sparesWriting (FileTrie.entryNodes_sparesWriting entries)).bind
      fun _ _ => .ok _

/-- Ordering a level of the forest does not fail for writing. -/
theorem levelOrder_sparesWriting (candidates : List EntityId) (claimed : List String) :
    SparesWriting (graph.levelOrder candidates claimed) := by
  unfold levelOrder
  split
  · exact .error rfl
  · exact sparesWriting_of_misfit _

/-- No failure among the remarks of a walk is one of writing. -/
def RemarksSpareWriting (walk : Walk) : Prop :=
  ∀ failure, .failed failure ∈ walk.remarks → failure.isOfWriting = false

/-- Walking siblings leaves no remark on writing when the walks below leave none. -/
theorem takeSiblings_sparesWriting {descend : EntityId → List String → Option Walk}
    (below : ∀ id claimed walk, descend id claimed = some walk → RemarksSpareWriting walk)
    {siblings : List EntityId} {claimed : List String} {walk : Walk}
    (takes : graph.takeSiblings descend siblings claimed = some walk) :
    RemarksSpareWriting walk := by
  induction siblings generalizing claimed walk with
  | nil =>
      cases takes
      nofun
  | cons id rest inductionHypothesis =>
      unfold takeSiblings at takes
      dsimp only at takes
      split at takes
      · obtain ⟨later, takesLater, equal⟩ := Option.bind_eq_some_iff.mp takes
        cases equal
        intro failure isRemark
        rcases List.mem_cons.mp isRemark with equal | isLater
        · cases equal
        · exact inductionHypothesis takesLater failure isLater
      · obtain ⟨inner, descends, takes⟩ := Option.bind_eq_some_iff.mp takes
        obtain ⟨later, takesLater, equal⟩ := Option.bind_eq_some_iff.mp takes
        cases equal
        intro failure isRemark
        rcases List.mem_append.mp isRemark with isInner | isLater
        · exact below _ _ inner descends failure isInner
        · exact inductionHypothesis takesLater failure isLater

/-- Walking a level of the forest leaves no remark on writing. -/
theorem walkLevel_sparesWriting {allowance : Nat} {candidates : List EntityId}
    {claimed : List String} {walk : Walk}
    (walks : graph.walkLevel allowance candidates claimed = some walk) :
    RemarksSpareWriting walk := by
  induction allowance generalizing candidates claimed walk with
  | zero => cases walks
  | succ allowance inductionHypothesis =>
      unfold walkLevel at walks
      split at walks
      · rename_i failure fails
        cases walks
        intro other isRemark
        cases List.mem_singleton.mp isRemark
        exact graph.levelOrder_sparesWriting candidates claimed failure fails
      · exact graph.takeSiblings_sparesWriting (fun _ _ _ descends => inductionHypothesis descends)
          walks

/-- Building the tree of classes does not fail for writing. -/
theorem classTree_sparesWriting (classes : List EntityId) :
    SparesWriting (graph.classTree classes) := by
  have walked : RemarksSpareWriting (graph.walk classes) := by
    unfold walk
    cases walks : graph.walkLevel (graph.size + 2) (graph.roots classes) [] with
    | none => nofun
    | some walk => exact graph.walkLevel_sparesWriting walks
  unfold classTree
  dsimp only
  split
  · rename_i failure first
    obtain ⟨remark, isRemark, found⟩ := List.exists_of_findSome?_eq_some first
    cases remark with
    | failed other =>
        cases found
        exact .error (walked failure isRemark)
    | claimed name => cases found
  · exact .ok _

end Graph

namespace Generation

/-- Looking for the file at a path does not fail for writing. -/
theorem fileAt_sparesWriting (graph : Graph) (target : Path) (files : List EntityId) :
    SparesWriting (fileAt graph target files) := by
  induction files with
  | nil => exact .ok none
  | cons id rest inductionHypothesis =>
      unfold fileAt
      refine (Settings.pathOf_sparesWriting _).bind fun path _ => ?_
      split
      · exact .ok (some id)
      · exact inductionHypothesis

/-- Choosing the main page does not fail for writing. -/
theorem chooseMainPage_sparesWriting (graph : Graph) (files : List EntityId) (wanted : Value) :
    SparesWriting (chooseMainPage graph files wanted) := by
  unfold chooseMainPage mainPageId
  split
  · exact .ok _
  · refine FailsWithin.bind ?_ fun _ _ => .ok _
    refine (Settings.pathOf_sparesWriting wanted).bind fun target _ => ?_
    refine (fileAt_sparesWriting graph target files).bind fun found _ => ?_
    cases found with
    | some id => exact .ok (some id)
    | none => exact .error rfl

/-- Checking the title does not fail for writing. -/
theorem checkTitle_sparesWriting (settings : Settings) : SparesWriting (checkTitle settings) := by
  unfold checkTitle
  split
  · exact .error rfl
  · exact .ok ()

/-- Rendering the artifacts does not fail for writing. -/
theorem render_sparesWriting (settings : Settings) (treePath indexPath : Path) (tree : List Node)
    (index : SearchIndex) : SparesWriting (render settings treePath indexPath tree index) := by
  unfold render
  split
  · exact .error rfl
  · exact .ok _

/-- Whatever keeps a run from being prepared, it is none of the troubles of writing. -/
theorem prepare_sparesWriting (settings : Settings) (collection : Collection) :
    SparesWriting (prepare settings collection).outcome := by
  rw [outcome_prepare]
  refine (settings.below_sparesWriting _).bind fun treePath _ => ?_
  refine (settings.below_sparesWriting _).bind fun indexPath _ => ?_
  refine (Collection.validate_blames _).sparesWriting.bind fun _ _ => ?_
  refine (chooseMainPage_sparesWriting _ _ _).bind fun page _ => ?_
  refine (checkTitle_sparesWriting settings).bind fun _ _ => ?_
  refine (Graph.fileTree_sparesWriting _ _ _).bind fun fileNodes _ => ?_
  refine (Graph.classTree_sparesWriting _ _).bind fun classNodes _ => ?_
  exact (render_sparesWriting settings treePath indexPath _ _).bind fun _ _ => .ok _

end Generation

end DocAtlas
