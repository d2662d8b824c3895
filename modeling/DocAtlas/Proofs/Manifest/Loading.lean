import DocAtlas.Proofs.Collection.Linked
import DocAtlas.Proofs.Manifest.Linking

/-!
# Loading

A well-typed manifest is loaded when its records can be read, the draft is accepted,
every name finds an entity and parents lead to no cycle. The collection that results
keeps the promises of a linked collection, whatever its records list as children.
-/

namespace DocAtlas.Manifest

/-- An entity of a draft that is named stays so when it is linked. -/
theorem Draft.isNamed_linked {draft : Draft} {id : EntityId}
    (isPlace : id < draft.collection.graph.size) (named : draft.collection.graph.IsNamed id) :
    draft.linked.graph.IsNamed id := by
  refine ⟨?_, ?_⟩
  · rw [entity_linked isPlace, entity_parented isPlace]
    exact named.name
  · rw [fullName_linked]
    exact named.fullName

/-- Parents are among the entities of a draft, and so are the children of any entity. -/
theorem Draft.IsChecked.children_lt {draft : Draft} (checked : draft.IsChecked)
    {parent child : EntityId} (isChild : child ∈ (draft.linked.graph.entity parent).children) :
    child < draft.collection.graph.size := by
  rcases checked.mem_children_iff.mp isChild with hasParent | ⟨_, _, _, _, found⟩
  · rw [← size_linked]
    exact hasParent.lt_size
  · exact (checked.find?_eq_some_iff.mp found).1

/-- Links change nothing that is checked. -/
theorem Draft.IsChecked.validate_linked {draft : Draft} (checked : draft.IsChecked)
    (accepted : draft.collection.validate = .ok ()) : draft.linked.validate = .ok () := by
  rw [Collection.validate_eq_ok_iff] at accepted ⊢
  obtain ⟨classesPass, filesPass, distinct⟩ := accepted
  refine ⟨fun id isClass => ?_, fun id isFile => ?_, ?_⟩
  · have passes := Graph.checkClass_eq_ok_iff.mp (classesPass id isClass)
    rw [Graph.checkClass_eq_ok_iff, fullName_linked, isNamespace_linked,
      entity_linked ((checked.mem_classes id).mp isClass).1,
      entity_parented ((checked.mem_classes id).mp isClass).1]
    exact passes
  · have passes := Graph.checkFile_eq_ok_iff.mp (filesPass id isFile)
    rw [Graph.checkFile_eq_ok_iff, fullName_linked, isNamespace_linked,
      entity_linked ((checked.mem_files id).mp isFile).1,
      entity_parented ((checked.mem_files id).mp isFile).1]
    exact passes
  · rw [fullNames_linked]
    exact distinct

/-- A checked draft without cycles of parents gives a linked collection. -/
theorem Draft.IsChecked.isLinked {draft : Draft} (checked : draft.IsChecked)
    (accepted : draft.collection.validate = .ok ())
    (acyclic : ∀ id, ¬ Relation.TransGen draft.linked.graph.HasParent id id) :
    draft.linked.IsLinked where
  accepted := checked.validate_linked accepted
  relativeName := fun id isPlace => by
    rw [size_linked] at isPlace
    rw [entity_linked isPlace, entity_parented isPlace]
    exact checked.relativeName id isPlace
  orderly :=
    { named := fun id isPlace => by
        rw [size_linked] at isPlace
        exact isNamed_linked isPlace (checked.named id isPlace)
      children_lt := fun parent child isChild => by
        rw [size_linked]
        exact checked.children_lt isChild }
  mem_classes := fun id => by
    rw [size_linked, isNamespace_linked]
    exact checked.mem_classes id
  mem_files := fun id => by
    rw [size_linked, isNamespace_linked]
    exact checked.mem_files id
  nodup_classes := checked.nodup_classes
  nodup_files := checked.nodup_files
  distinct := fun left right leftPlace rightPlace same => by
    rw [size_linked] at leftPlace rightPlace
    rw [fullName_linked, fullName_linked] at same
    exact checked.eq_of_fullName_eq leftPlace rightPlace same
  nodup_children := checked.nodup_children
  parent_contains := fun _ _ hasParent => checked.mem_children_iff.mpr (.inl hasParent)
  file_parent := fun child file isFile isChild => by
    refine (checked.mem_children_iff.mp isChild).resolve_right ?_
    rintro ⟨fields, isPlaced, -⟩
    have isClass := (checked.mem_classes file).mp (checked.mem_classes_of_placed isPlaced)
    rw [isNamespace_linked, isClass.2] at isFile
    exact Bool.noConfusion isFile
  acyclic := acyclic

/-- What the draft of a well-typed manifest has to be like for the manifest to be
loaded. -/
structure IsLoadable (manifest : Value) (draft : Draft) : Prop where
  drafted : draftOf manifest = .ok draft
  accepted : draft.collection.validate = .ok ()
  checked : draft.IsChecked
  resolves : draft.Resolves
  acyclic : ∀ id, ¬ Relation.TransGen draft.linked.graph.HasParent id id

/-- A well-typed manifest is loaded by linking its draft. -/
theorem load_eq_ok_iff {manifest : Value} (typed : isWellTyped manifest = true)
    {collection : Collection} :
    load manifest = .ok collection ↔
      ∃ draft, IsLoadable manifest draft ∧ collection = draft.linked := by
  unfold load
  simp only [Checked.bind_eq_ok]
  constructor
  · rintro ⟨draft, drafted, _, accepted, linked⟩
    obtain ⟨classes, files, reading, rfl⟩ := (draftOf_eq_ok_iff typed).mp drafted
    have checked := reading.isChecked typed accepted
    obtain ⟨resolves, acyclic, rfl⟩ := checked.link_eq_ok_iff.mp linked
    exact ⟨_, ⟨drafted, accepted, checked, resolves, acyclic⟩, rfl⟩
  · rintro ⟨draft, loadable, rfl⟩
    exact ⟨draft, loadable.drafted, (), loadable.accepted,
      loadable.checked.link_eq_ok_iff.mpr ⟨loadable.resolves, loadable.acyclic, rfl⟩⟩

/-- Loading keeps its promises. -/
theorem isLinked_of_load {manifest : Value} (typed : isWellTyped manifest = true)
    {collection : Collection} (loaded : load manifest = .ok collection) : collection.IsLinked := by
  obtain ⟨draft, loadable, rfl⟩ := (load_eq_ok_iff typed).mp loaded
  exact loadable.checked.isLinked loadable.accepted loadable.acyclic

/-- The path of every entity of a loaded manifest is a text. -/
theorem path_isText_of_load {manifest : Value} (typed : isWellTyped manifest = true)
    {collection : Collection} (loaded : load manifest = .ok collection) {id : EntityId}
    (isPlace : id < collection.graph.size) :
    (collection.graph.entity id).path.isText = true := by
  obtain ⟨draft, loadable, rfl⟩ := (load_eq_ok_iff typed).mp loaded
  obtain ⟨classes, files, reading, rfl⟩ := (draftOf_eq_ok_iff typed).mp loadable.drafted
  rw [Draft.size_linked] at isPlace
  obtain ⟨classesUnlinked, filesUnlinked⟩ := reading.unlinked typed
  have isRead : (draftWith (recordsUnder "classes" manifest) classes files).collection.graph.entity
      id ∈ classes ++ files := by
    rw [← entities_draftWith (recordsUnder "classes" manifest)]
    exact List.mem_map_of_mem (List.mem_range.mpr isPlace)
  have unlinked := (List.mem_append.mp isRead).elim (fun isClass => (classesUnlinked _ isClass).1)
    (fun isFile => (filesUnlinked _ isFile).1)
  obtain ⟨path, isText⟩ := unlinked.path
  rw [Draft.entity_linked isPlace, Draft.entity_parented isPlace]
  dsimp only
  rw [isText]
  rfl

end DocAtlas.Manifest
