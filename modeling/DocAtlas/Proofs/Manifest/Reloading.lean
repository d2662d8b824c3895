import DocAtlas.Proofs.Manifest.NamedLinks
import DocAtlas.Proofs.Manifest.Reordering

/-!
# Loading reordered manifests

A reordered manifest has the same entities at other places. Its records name the same parents
and list the same children, so both manifests are loaded or neither, with alike collections.
-/

namespace DocAtlas.Manifest

variable {manifest shuffled : Value}

/-- Reordered records give the same entities in some order. -/
theorem exists_reading_of_records {read : Fields → Checked Entity}
    (same : ∀ left right, SameButOrder left right → read left = read right)
    {records middle others : List Fields} (perm : records.Perm middle)
    (inStep : List.Forall₂ SameButOrder middle others) {entities : List Entity}
    (areRead : List.Forall₂ (fun fields entity => read fields = .ok entity) records entities) :
    ∃ otherEntities, entities.Perm otherEntities ∧
      List.Forall₂ (fun fields entity => read fields = .ok entity) others otherEntities := by
  obtain ⟨otherEntities, permuted, inMiddle⟩ := Pairing.perm_in_front areRead.flip perm
  refine ⟨otherEntities, permuted, List.Forall₂.flip ?_⟩
  refine Pairing.trans (fun entity left right readLeft sameRecord => ?_) inMiddle inStep
  exact (same left right sameRecord).symm.trans readLeft

/-- A reordered manifest can be read when the manifest can. -/
theorem IsReading.reordered (isReordered : IsReordered manifest shuffled)
    {classes files : List Entity} (reading : IsReading manifest classes files) :
    ∃ otherClasses otherFiles, IsReading shuffled otherClasses otherFiles ∧
      classes.Perm otherClasses ∧ files.Perm otherFiles := by
  obtain ⟨middle, perm, inStep⟩ := @IsReordered.records _ _ isReordered "classes" (by simp)
  obtain ⟨otherClasses, classesPerm, classesRead⟩ := exists_reading_of_records
    (fun _ _ => SameButOrder.classOf_eq) perm inStep reading.classes
  obtain ⟨middle, perm, inStep⟩ := @IsReordered.records _ _ isReordered "files" (by simp)
  obtain ⟨otherFiles, filesPerm, filesRead⟩ := exists_reading_of_records
    (fun _ _ => SameButOrder.fileOf_eq) perm inStep reading.files
  exact ⟨otherClasses, otherFiles, ⟨classesRead, filesRead⟩, classesPerm, filesPerm⟩

section Names

/-- Every class record of a manifest is found in the reordered manifest. -/
theorem IsReordered.exists_class (isReordered : IsReordered manifest shuffled) {fields : Fields}
    (isRecord : fields ∈ recordsUnder "classes" manifest) :
    ∃ otherFields ∈ recordsUnder "classes" shuffled, SameButOrder fields otherFields := by
  obtain ⟨middle, perm, inStep⟩ := @IsReordered.records _ _ isReordered "classes" (by simp)
  exact Pairing.exists_right inStep (perm.mem_iff.mp isRecord)

/-- A reordered manifest names the same parents. -/
theorem IsReordered.namesParent (isReordered : IsReordered manifest shuffled)
    {child parent : String} (namesParent : NamesParent manifest child parent) :
    NamesParent shuffled child parent := by
  obtain ⟨fields, isRecord, isFullName, isParent⟩ := namesParent
  obtain ⟨otherFields, isOther, same⟩ := isReordered.exists_class isRecord
  rw [same.givenText?_eq (by decide)] at isFullName isParent
  exact ⟨otherFields, isOther, isFullName, isParent⟩

/-- A reordered manifest lists the same children. -/
theorem IsReordered.listsChild (isReordered : IsReordered manifest shuffled)
    {container member : String} (listsChild : ListsChild manifest container member) :
    ListsChild shuffled container member := by
  obtain ⟨fields, isRecord, isFullName, isChild⟩ := listsChild
  obtain ⟨otherFields, isOther, same⟩ := isReordered.exists_class isRecord
  rw [same.givenText?_eq (by decide)] at isFullName
  exact ⟨otherFields, isOther, isFullName, same.mem_childNames.mp isChild⟩

end Names

section Drafts

variable {classes files otherClasses otherFiles : List Entity}
  (reading : IsReading manifest classes files)
  (otherReading : IsReading shuffled otherClasses otherFiles)
  (isReordered : IsReordered manifest shuffled)
  (perm : (classes ++ files).Perm (otherClasses ++ otherFiles))
  (typed : isWellTyped manifest = true)
include reading otherReading isReordered perm typed

/-- The draft of a reordered manifest is loaded when it is checked. -/
theorem IsReading.isLoadable_reordered (loadable : IsLoadable manifest reading.draft)
    (accepted : otherReading.draft.collection.validate = .ok ()) :
    IsLoadable shuffled otherReading.draft := by
  have otherTyped := isReordered.isWellTyped typed
  have checked := otherReading.isChecked otherTyped accepted
  have sameNames : ∀ name, name ∈ fullNames manifest ↔ name ∈ fullNames shuffled := by
    intro name
    rw [← reading.map_fullName typed, ← otherReading.map_fullName otherTyped]
    exact (perm.map Entity.fullName).mem_iff
  have resolves : otherReading.draft.Resolves := by
    refine (otherReading.resolves_iff otherTyped checked).mpr fun fields isRecord name isUsed => ?_
    obtain ⟨source, isSource, same⟩ := isReordered.symm.exists_class isRecord
    rw [same.givenText?_eq (by decide), same.mem_childNames] at isUsed
    rw [← sameNames]
    exact (reading.resolves_iff typed loadable.checked).mp loadable.resolves source isSource name
      isUsed
  refine ⟨(draftOf_eq_ok_iff otherTyped).mpr ⟨_, _, otherReading, rfl⟩, accepted, checked, resolves,
    (otherReading.acyclic_iff otherTyped checked resolves).mpr ?_⟩
  intro fields isRecord fullName isFullName cycle
  obtain ⟨source, isSource, same⟩ := isReordered.symm.exists_class isRecord
  rw [same.givenText?_eq (by decide)] at isFullName
  refine (reading.acyclic_iff typed loadable.checked loadable.resolves).mp loadable.acyclic
    source isSource fullName isFullName ?_
  exact Relation.TransGen.mono (fun _ _ => isReordered.symm.namesParent) fullName fullName cycle

/-- Reordered drafts are linked to alike collections. -/
theorem IsReading.isAlike (loadable : IsLoadable manifest reading.draft)
    (otherLoadable : IsLoadable shuffled otherReading.draft) :
    reading.draft.linked.graph.IsAlike otherReading.draft.linked.graph := by
  have otherTyped := isReordered.isWellTyped typed
  constructor
  case forth =>
    intro id isPlace
    obtain ⟨other, pair, -⟩ := reading.exists_counterpart otherReading isPlace
      fun _ isRead _ => perm.mem_iff.mp isRead
    exact ⟨other, pair⟩
  case back =>
    intro other isPlace
    obtain ⟨id, pair, -⟩ := otherReading.exists_counterpart reading isPlace
      fun _ isRead _ => perm.mem_iff.mpr isRead
    exact ⟨id, pair.symm⟩
  case unlinked =>
    intro id other pair
    exact reading.unlinked_eq otherReading otherLoadable pair fun _ isRead _ =>
      perm.mem_iff.mp isRead
  case hasParent =>
    intro child otherChild parent otherParent children parents
    exact ⟨reading.hasParent_forth otherReading typed otherTyped loadable otherLoadable children
        parents isReordered.namesParent,
      otherReading.hasParent_forth reading otherTyped typed otherLoadable loadable children.symm
        parents.symm isReordered.symm.namesParent⟩
  case mem_children =>
    intro child otherChild parent otherParent children parents
    exact ⟨reading.mem_children_forth otherReading typed otherTyped loadable otherLoadable
        children parents isReordered.namesParent isReordered.listsChild,
      otherReading.mem_children_forth reading otherTyped typed otherLoadable loadable
        children.symm parents.symm isReordered.symm.namesParent isReordered.symm.listsChild⟩

end Drafts

/-- A reordered manifest is loaded when the manifest is, with an alike collection. -/
theorem load_of_reordered (typed : isWellTyped manifest = true)
    (isReordered : IsReordered manifest shuffled) {left : Collection}
    (loaded : load manifest = .ok left) :
    ∃ right, load shuffled = .ok right ∧ left.graph.IsAlike right.graph := by
  obtain ⟨draft, loadable, rfl⟩ := (load_eq_ok_iff typed).mp loaded
  obtain ⟨classes, files, reading, rfl⟩ := (draftOf_eq_ok_iff typed).mp loadable.drafted
  obtain ⟨otherClasses, otherFiles, otherReading, classesPerm, filesPerm⟩ :=
    reading.reordered isReordered
  have perm := classesPerm.append filesPerm
  have accepted : otherReading.draft.collection.validate = .ok () := by
    have passes := (validate_draftWith_iff _).mp loadable.accepted
    refine (validate_draftWith_iff _).mpr ⟨fun entity isClass => ?_, fun entity isFile => ?_, ?_⟩
    · exact passes.1 entity (classesPerm.mem_iff.mpr isClass)
    · exact passes.2.1 entity (filesPerm.mem_iff.mpr isFile)
    · exact (perm.map Entity.fullName).nodup_iff.mp passes.2.2
  have otherLoadable :=
    reading.isLoadable_reordered otherReading isReordered perm typed loadable accepted
  exact ⟨_, (load_eq_ok_iff (isReordered.isWellTyped typed)).mpr ⟨_, otherLoadable, rfl⟩,
    reading.isAlike otherReading isReordered perm typed loadable otherLoadable⟩

end DocAtlas.Manifest
