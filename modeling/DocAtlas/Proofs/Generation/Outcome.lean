import DocAtlas.Generation
import DocAtlas.Proofs.Checked

/-!
# Outcomes of runs

What a computation notes has no part in its outcome. This module takes the outcome of
the steps of a run apart, and says what is left of a run when its events are set aside.
-/

namespace DocAtlas

namespace Noted

variable {α β : Type}

/-- Noting an event does not fail. -/
@[simp] theorem outcome_note (event : Event) : (note event).outcome = .ok () := rfl

/-- Noting events does not fail. -/
@[simp] theorem outcome_noteAll (events : List Event) : (noteAll events).outcome = .ok () := rfl

/-- What is only checked notes nothing and has its own outcome. -/
@[simp] theorem outcome_liftM (outcome : Checked α) :
    (liftM outcome : Noted α).outcome = outcome := rfl

/-- The outcome of one computation after another is that of their outcomes. -/
@[simp] theorem outcome_bind (first : Noted α) (next : α → Noted β) :
    (first >>= next).outcome = first.outcome >>= fun value => (next value).outcome := by
  show (andThen first next).outcome = _
  unfold andThen
  cases first.outcome <;> rfl

end Noted

namespace Generation

/-- A run returns what it prepared, with the paths of what it wrote. -/
theorem outcome_run (settings : Settings) (collection : Collection) (system : FileSystem) :
    (run settings collection system).2.outcome =
      (prepare settings collection).outcome >>= fun generation =>
        (generation.write system).2.outcome.map (generation, ·) := by
  unfold run
  dsimp only
  cases (prepare settings collection).outcome with
  | error failure => rfl
  | ok generation =>
      dsimp only
      rw [Noted.outcome_bind, Noted.outcome_bind, Noted.outcome_noteAll]
      rfl

/-- What a run builds that others read: the tree, the search index, the artifacts, and
whether they are only to be listed. -/
structure Products where
  tree : List Node
  index : SearchIndex
  artifacts : List Artifact
  isDry : Bool

/-- The products of a run: all that it built but the index page. -/
def products (generation : Generation) : Products where
  tree := generation.tree
  index := generation.index
  artifacts := generation.artifacts
  isDry := generation.isDry

/-- What products leave behind once they are written: the file system, and the products
with the paths written, or the failure to write them. -/
def Products.effects (products : Products) (system : FileSystem) :
    FileSystem × Checked (Products × List Path) :=
  let (system, written) := Artifact.emit products.isDry products.artifacts system
  (system, written.outcome.map fun paths => (products, paths))

/-- What a run leaves behind: the file system, and its products with the paths written, or
its failure. -/
def effects (settings : Settings) (collection : Collection) (system : FileSystem) :
    FileSystem × Checked (Products × List Path) :=
  let (system, made) := run settings collection system
  (system, made.outcome.map fun (generation, paths) => (generation.products, paths))

/-- A run leaves behind what the products of its preparation do. -/
theorem effects_eq (settings : Settings) (collection : Collection) (system : FileSystem) :
    effects settings collection system =
      match (prepare settings collection).outcome.map products with
      | .error failure => (system, .error failure)
      | .ok products => products.effects system := by
  unfold effects run
  dsimp only
  cases (prepare settings collection).outcome with
  | error failure => rfl
  | ok generation =>
      unfold Products.effects write
      dsimp only [Except.map, products]
      rw [Noted.outcome_bind, Noted.outcome_bind, Noted.outcome_noteAll, Checked.ok_bind]
      cases (Artifact.emit generation.isDry generation.artifacts system).2.outcome with
      | error failure => rfl
      | ok paths => rfl

/-- The outcome of the preparation, without what it notes. -/
theorem outcome_prepare (settings : Settings) (collection : Collection) :
    (prepare settings collection).outcome = (do
      let graph := collection.graph
      let treePath ← settings.treePath
      let indexPath ← settings.searchIndexPath
      let files := graph.byFullName collection.files
      let classes := graph.byFullName collection.classes
      Collection.validate { graph, classes, files }
      let page ← chooseMainPage graph collection.files settings.mainPage
      checkTitle settings
      let fileNodes ← graph.fileTree files settings.filesLabel
      let classNodes ← graph.classTree classes
      let tree := fileNodes ++ classNodes
      let index := graph.searchIndex classes
      let artifacts ← render settings treePath indexPath tree index
      pure { tree, index, mainPage := page, artifacts, isDry := settings.dryRun.isGiven }) := by
  unfold prepare buildIndex buildTree
  simp only [Noted.outcome_bind, Noted.outcome_note, Noted.outcome_noteAll, Noted.outcome_liftM,
    Checked.ok_bind, bind_assoc]
  rfl

/-- What is known of a run that was prepared: every check passed, and every part was made. -/
structure IsMadeOf (settings : Settings) (collection : Collection) (generation : Generation)
    (treePath indexPath : Path) (fileNodes classNodes : List Node) : Prop where
  isTree : settings.treePath = .ok treePath
  isIndex : settings.searchIndexPath = .ok indexPath
  accepted : Collection.validate ⟨collection.graph,
    collection.graph.byFullName collection.classes,
    collection.graph.byFullName collection.files⟩ = .ok ()
  page : chooseMainPage collection.graph collection.files settings.mainPage =
    .ok generation.mainPage
  title : checkTitle settings = .ok ()
  fileTree : collection.graph.fileTree (collection.graph.byFullName collection.files)
    settings.filesLabel = .ok fileNodes
  classTree : collection.graph.classTree (collection.graph.byFullName collection.classes) =
    .ok classNodes
  tree : generation.tree = fileNodes ++ classNodes
  index : generation.index =
    collection.graph.searchIndex (collection.graph.byFullName collection.classes)
  rendered : render settings treePath indexPath generation.tree generation.index =
    .ok generation.artifacts
  isDry : generation.isDry = settings.dryRun.isGiven

/-- What is prepared is made of two paths and the two parts of the tree. -/
theorem exists_isMadeOf {settings : Settings} {collection : Collection} {generation : Generation}
    (isPrepared : (prepare settings collection).outcome = .ok generation) :
    ∃ treePath indexPath fileNodes classNodes,
      IsMadeOf settings collection generation treePath indexPath fileNodes classNodes := by
  rw [outcome_prepare] at isPrepared
  obtain ⟨treePath, isTree, isPrepared⟩ := Checked.bind_eq_ok.mp isPrepared
  obtain ⟨indexPath, isIndex, isPrepared⟩ := Checked.bind_eq_ok.mp isPrepared
  obtain ⟨accepted, isPrepared⟩ := Checked.check_bind_eq_ok.mp isPrepared
  obtain ⟨page, chosen, isPrepared⟩ := Checked.bind_eq_ok.mp isPrepared
  obtain ⟨title, isPrepared⟩ := Checked.check_bind_eq_ok.mp isPrepared
  obtain ⟨fileNodes, fileTree, isPrepared⟩ := Checked.bind_eq_ok.mp isPrepared
  obtain ⟨classNodes, classTree, isPrepared⟩ := Checked.bind_eq_ok.mp isPrepared
  obtain ⟨artifacts, rendered, isPrepared⟩ := Checked.bind_eq_ok.mp isPrepared
  cases isPrepared
  exact ⟨treePath, indexPath, fileNodes, classNodes, isTree, isIndex, accepted, chosen, title,
    fileTree, classTree, rfl, rfl, rendered, rfl⟩

/-- Among files whose relative names are texts one is found unless none has the path. -/
theorem fileAt_eq_ok {graph : Graph} {target : Path} {ids : List EntityId}
    (areTexts : ∀ id ∈ ids, ∃ relativeName, (graph.entity id).relativeName = .text relativeName) :
    ∃ found, fileAt graph target ids = .ok found ∧
      (found = none ↔ ∀ id ∈ ids,
        Settings.pathOf (graph.entity id).relativeName ≠ .ok target) := by
  induction ids with
  | nil => exact ⟨none, rfl, by simp⟩
  | cons id rest inductionHypothesis =>
      rw [List.forall_mem_cons] at areTexts
      obtain ⟨⟨relativeName, isText⟩, others⟩ := areTexts
      obtain ⟨found, answer, isNone⟩ := inductionHypothesis others
      have path : Settings.pathOf (graph.entity id).relativeName =
          .ok (Path.ofString relativeName) := by
        rw [isText]
        rfl
      unfold fileAt
      rw [path, Checked.ok_bind]
      by_cases here : Path.ofString relativeName = target
      · refine ⟨some id, if_pos here, ?_⟩
        rw [List.forall_mem_cons, path, here]
        simp
      · refine ⟨found, by rw [if_neg here]; exact answer, ?_⟩
        rw [List.forall_mem_cons, path, isNone]
        simp [here]

end Generation

end DocAtlas
