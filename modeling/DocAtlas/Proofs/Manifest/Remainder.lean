import DocAtlas.Proofs.Manifest.NamedLinks
import DocAtlas.Proofs.Manifest.Omission

/-!
# Loading what is left of a manifest

A manifest from which records are left out is loaded when the manifest is, provided that
nothing left in refers to a parent left out. When nothing is left out that is shown, both
show the same.
-/

namespace DocAtlas.Manifest

/-- One loaded manifest shows no more than another one when the other one holds all entities
of certain names with all links between them, and only entities of such names are shown. -/
theorem IsReading.showsNoMore {manifest remainder : Value} {classes files : List Entity}
    {otherClasses otherFiles : List Entity} (reading : IsReading manifest classes files)
    (otherReading : IsReading remainder otherClasses otherFiles)
    (typed : isWellTyped manifest = true) (otherTyped : isWellTyped remainder = true)
    (loadable : IsLoadable manifest reading.draft)
    (otherLoadable : IsLoadable remainder otherReading.draft) (isKept : String → Prop)
    (shownKept : ∀ id, reading.draft.linked.graph.IsShown id →
      isKept (reading.draft.linked.graph.fullName id))
    (entities : ∀ entity ∈ classes ++ files, isKept entity.fullName →
      entity ∈ otherClasses ++ otherFiles)
    (parents : ∀ child parent, isKept child → NamesParent manifest child parent →
      NamesParent remainder child parent)
    (members : ∀ container member, isKept container → isKept member →
      ListsChild manifest container member → ListsChild remainder container member) :
    reading.draft.linked.graph.ShowsNoMore otherReading.draft.linked.graph := by
  have isReadToo : ∀ id, reading.draft.linked.graph.IsShown id → ∀ entity ∈ classes ++ files,
      entity.fullName = reading.draft.linked.graph.fullName id →
        entity ∈ otherClasses ++ otherFiles := by
    intro id isShown entity isRead sameName
    exact entities entity isRead (sameName ▸ shownKept id isShown)
  constructor
  case forth =>
    intro id isShown
    obtain ⟨other, pair, -⟩ :=
      reading.exists_counterpart otherReading isShown.1 (isReadToo id isShown)
    exact ⟨other, pair⟩
  case unlinked =>
    intro id other isShown pair
    exact reading.unlinked_eq otherReading otherLoadable pair (isReadToo id isShown)
  case hasParent =>
    intro child otherChild parent otherParent childShown parentShown children parentPair
    exact reading.hasParent_forth otherReading typed otherTyped loadable otherLoadable children
      parentPair (parents _ _ (shownKept child childShown))
  case mem_children =>
    intro child otherChild parent otherParent childShown parentShown children parentPair
    exact reading.mem_children_forth otherReading typed otherTyped loadable otherLoadable children
      parentPair (parents _ _ (shownKept child childShown))
      (members _ _ (shownKept parent parentShown) (shownKept child childShown))

section Without

variable {manifest : Value} (typed : isWellTyped manifest = true) {names : List String}
  {classes files : List Entity} (reading : IsReading manifest classes files)

/-- An entity read from a manifest is left when its name is not left out. -/
theorem mem_left_of_mem {entity : Entity} (isRead : entity ∈ classes ++ files)
    (isKept : entity.fullName ∉ names) :
    entity ∈ (classes.filter fun entity => !names.contains entity.fullName) ++ files := by
  refine List.mem_append.mpr ((List.mem_append.mp isRead).imp_left fun isClass => ?_)
  exact List.mem_filter.mpr ⟨isClass, by simpa using isKept⟩

/-- What is left of the entities stands in the order in which it stood. -/
theorem left_sublist :
    ((classes.filter fun entity => !names.contains entity.fullName) ++ files).Sublist
      (classes ++ files) :=
  List.filter_sublist.append (.refl files)

include typed reading

/-- A full name that is kept is one of the manifest without the others. -/
theorem IsReading.mem_fullNames_without {name : String} (isName : name ∈ fullNames manifest)
    (isKept : name ∉ names) : name ∈ fullNames (Manifest.without names manifest) := by
  rw [← reading.map_fullName typed] at isName
  obtain ⟨entity, isRead, rfl⟩ := List.mem_map.mp isName
  rw [← (reading.without typed names).map_fullName (isWellTyped_without names typed)]
  exact List.mem_map_of_mem (mem_left_of_mem isRead isKept)

/-- The draft of what is left is accepted. -/
theorem IsReading.isChecked_without (loadable : IsLoadable manifest reading.draft) :
    (reading.without typed names).draft.collection.validate = .ok () ∧
      (reading.without typed names).draft.IsChecked := by
  have accepted : (reading.without typed names).draft.collection.validate = .ok () := by
    obtain ⟨classesPass, filesPass, distinct⟩ := (validate_draftWith_iff _).mp loadable.accepted
    refine (validate_draftWith_iff _).mpr ⟨fun entity isLeft => ?_, filesPass, ?_⟩
    · exact classesPass entity (List.mem_of_mem_filter isLeft)
    · exact distinct.sublist (left_sublist.map _)
  exact ⟨accepted,
    (reading.without typed names).isChecked (isWellTyped_without names typed) accepted⟩

variable (loadable : IsLoadable manifest reading.draft)
  (closed : ∀ child parent, NamesParent manifest child parent → parent ∈ names → child ∈ names)
include loadable closed

/-- No reference that is left leads to what is left out: not to a child, whose reference is
taken out with it, and not to a parent, without which no record is left. -/
theorem IsReading.resolves_without : (reading.without typed names).draft.Resolves := by
  have otherTyped := isWellTyped_without names typed
  have otherReading := reading.without typed names
  have references := (reading.resolves_iff typed loadable.checked).mp loadable.resolves
  refine (otherReading.resolves_iff otherTyped
    (reading.isChecked_without typed loadable).2).mpr fun fields isRecord name isUsed => ?_
  obtain ⟨id, isPlaced⟩ := otherReading.exists_place isRecord
  have isFullName := otherReading.fullName_of_placed otherTyped isPlaced
  rcases isUsed with isParent | isChild
  · obtain ⟨⟨source, isThere, isOwn, isParent⟩, isKept⟩ :=
      (namesParent_without_iff names).mp ⟨fields, isRecord, isFullName, isParent⟩
    refine reading.mem_fullNames_without typed (references source isThere name (.inl isParent))
      fun isLeftOut => isKept ?_
    exact closed _ name ⟨source, isThere, isOwn, isParent⟩ isLeftOut
  · obtain ⟨⟨source, isThere, -, isChild⟩, -, isKept⟩ :=
      (listsChild_without_iff names).mp ⟨fields, isRecord, isFullName, isChild⟩
    exact reading.mem_fullNames_without typed (references source isThere name (.inr isChild))
      isKept

/-- What is left of a manifest is loaded when no record is left whose parent is left out. -/
theorem IsReading.isLoadable_without :
    IsLoadable (Manifest.without names manifest) (reading.without typed names).draft := by
  have otherTyped := isWellTyped_without names typed
  have otherReading := reading.without typed names
  obtain ⟨accepted, checked⟩ := reading.isChecked_without typed loadable
  have resolves := reading.resolves_without typed loadable closed
  have acyclic := (reading.acyclic_iff typed loadable.checked loadable.resolves).mp loadable.acyclic
  refine ⟨(draftOf_eq_ok_iff otherTyped).mpr ⟨_, _, otherReading, rfl⟩, accepted, checked, resolves,
    (otherReading.acyclic_iff otherTyped checked resolves).mpr ?_⟩
  intro fields isRecord fullName isFullName cycle
  rw [classes_without] at isRecord
  obtain ⟨source, isThere, rfl⟩ := List.mem_map.mp isRecord
  rw [givenText?_withoutReferences names source (by decide)] at isFullName
  refine acyclic source (List.mem_of_mem_filter isThere) fullName isFullName ?_
  exact Relation.TransGen.mono (fun _ _ namesParent =>
    ((namesParent_without_iff names).mp namesParent).1) fullName fullName cycle

end Without

/-- What is left of a manifest is loaded, and shows the same, when nothing is left out that is
shown and nothing is left whose parent is left out. -/
theorem load_without {manifest : Value} (typed : isWellTyped manifest = true)
    {collection : Collection} (loaded : load manifest = .ok collection) {names : List String}
    (closed : ∀ child ∈ collection.classes, ∀ parent, collection.graph.HasParent child parent →
      collection.graph.fullName parent ∈ names → collection.graph.fullName child ∈ names)
    (unshown : ∀ id, collection.graph.IsShown id → collection.graph.fullName id ∉ names) :
    ∃ remainder, load (without names manifest) = .ok remainder ∧
      collection.graph.ShowsNoMore remainder.graph ∧
      remainder.graph.ShowsNoMore collection.graph ∧
      collection.files.map collection.graph.fullName =
        remainder.files.map remainder.graph.fullName := by
  have otherTyped := isWellTyped_without names typed
  obtain ⟨draft, loadable, rfl⟩ := (load_eq_ok_iff typed).mp loaded
  obtain ⟨classes, files, reading, rfl⟩ := (draftOf_eq_ok_iff typed).mp loadable.drafted
  have closedByName : ∀ child parent, NamesParent manifest child parent → parent ∈ names →
      child ∈ names := by
    intro child parent namesParent isLeftOut
    obtain ⟨id, isClass, above, hasParent, rfl, rfl⟩ :=
      reading.exists_hasParent typed loadable namesParent
    exact closed id isClass above hasParent isLeftOut
  have otherLoadable := reading.isLoadable_without typed loadable closedByName
  refine ⟨_, (load_eq_ok_iff otherTyped).mpr ⟨_, otherLoadable, rfl⟩, ?_, ?_, ?_⟩
  · refine reading.showsNoMore (reading.without typed names) typed otherTyped loadable otherLoadable
      (· ∉ names) unshown (fun _ => mem_left_of_mem) ?_ ?_
    · exact fun _ _ isKept namesParent =>
        (namesParent_without_iff names).mpr ⟨namesParent, isKept⟩
    · exact fun _ _ isKept isOtherKept listsChild =>
        (listsChild_without_iff names).mpr ⟨listsChild, isKept, isOtherKept⟩
  · refine (reading.without typed names).showsNoMore reading otherTyped typed otherLoadable loadable
      (fun _ => True) (fun _ _ => trivial) (fun _ isLeft _ => left_sublist.subset isLeft) ?_ ?_
    · exact fun _ _ _ namesParent => ((namesParent_without_iff names).mp namesParent).1
    · exact fun _ _ _ _ listsChild => ((listsChild_without_iff names).mp listsChild).1
  · exact reading.files_linked.trans (reading.without typed names).files_linked.symm

end DocAtlas.Manifest
