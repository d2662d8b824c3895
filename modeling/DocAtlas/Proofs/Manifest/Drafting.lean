import DocAtlas.Manifest
import DocAtlas.Proofs.Collection.Validation
import DocAtlas.Proofs.Entity.Containment
import DocAtlas.Proofs.Manifest.Records
import DocAtlas.Proofs.Tree.SiblingOrder

/-!
# Drafts

The draft of a well-typed manifest holds one entity for each record: the classes
first, in the order of their records, and the files behind them. This module says when
there is a draft, what stands at each of its places, and which drafts are accepted.
-/

namespace DocAtlas.Manifest

/-- The entities that the records of a manifest give, in order. -/
structure IsReading (manifest : Value) (classes files : List Entity) : Prop where
  classes : List.Forall₂ (fun fields entity => classOf (.record fields) = .ok entity)
    (recordsUnder "classes" manifest) classes
  files : List.Forall₂ (fun fields entity => fileOf (.record fields) = .ok entity)
    (recordsUnder "files" manifest) files

/-- The draft of class records and of the entities read. -/
def draftWith (records : List Fields) (classes files : List Entity) : Draft where
  collection :=
    { graph := ⟨(classes ++ files).toArray⟩
      classes := List.range classes.length
      files := (List.range files.length).map (classes.length + ·) }
  records := records.zip (List.range classes.length)

/-- The class records of a well-typed manifest are typed. -/
theorem isClassTyped_of_mem {manifest : Value} (typed : isWellTyped manifest = true) :
    ∀ fields ∈ recordsUnder "classes" manifest, isClassTyped fields = true := by
  cases manifest with
  | record fields => exact (listedOf_records (Bool.and_eq_true_iff.mp typed).1).2
  | _ => exact absurd typed (by simp [isWellTyped, Value.isRecordOf])

/-- The file records of a well-typed manifest are typed. -/
theorem isFileTyped_of_mem {manifest : Value} (typed : isWellTyped manifest = true) :
    ∀ fields ∈ recordsUnder "files" manifest, isFileTyped fields = true := by
  cases manifest with
  | record fields => exact (listedOf_records (Bool.and_eq_true_iff.mp typed).2).2
  | _ => exact absurd typed (by simp [isWellTyped, Value.isRecordOf])

/-- Records have their fields at hand. -/
theorem mapM_fieldsOf (records : List Fields) :
    (records.map Value.record).mapM fieldsOf = .ok records := by
  rw [Checked.mapM_eq_ok, List.forall₂_map_left_iff, List.forall₂_same]
  exact fun _ _ => rfl

/-- A well-typed manifest has a draft when each of its records can be read. -/
theorem draftOf_eq_ok_iff {manifest : Value} (typed : isWellTyped manifest = true)
    {draft : Draft} :
    draftOf manifest = .ok draft ↔
      ∃ classes files, IsReading manifest classes files ∧
        draft = draftWith (recordsUnder "classes" manifest) classes files := by
  cases manifest with
  | record fields =>
      have typed : (_ && _) = true := typed
      obtain ⟨classesTyped, filesTyped⟩ := Bool.and_eq_true_iff.mp typed
      unfold draftOf
      simp only [(listedOf_records classesTyped).1, (listedOf_records filesTyped).1,
        Checked.ok_bind, Checked.bind_eq_ok, mapM_fieldsOf]
      simp only [Checked.mapM_eq_ok, List.forall₂_map_left_iff]
      constructor
      · rintro ⟨classes, classesRead, files, filesRead, made⟩
        exact ⟨classes, files, ⟨classesRead, filesRead⟩, (Except.ok.inj made).symm⟩
      · rintro ⟨classes, files, reading, rfl⟩
        exact ⟨classes, reading.classes, files, reading.files, rfl⟩
  | _ => exact absurd typed (by simp [isWellTyped, Value.isRecordOf])

section Places

variable {manifest : Value} {classes files : List Entity}

/-- A draft has a place for every class and every file. -/
theorem size_draftWith (records : List Fields) :
    (draftWith records classes files).collection.graph.size = classes.length + files.length := by
  simp [draftWith, Graph.size]

/-- A place below the number of classes holds the class of that place. -/
theorem entity_class {records : List Fields} {id : EntityId} (isClass : id < classes.length) :
    (draftWith records classes files).collection.graph.entity id = classes[id] := by
  simp [draftWith, Graph.entity, List.getElem?_append_left isClass, isClass]

/-- A place above them holds a file. -/
theorem entity_file {records : List Fields} {place : Nat} (isFile : place < files.length) :
    (draftWith records classes files).collection.graph.entity (classes.length + place) =
      files[place] := by
  simp [draftWith, Graph.entity, isFile]

/-- The entities of a draft are those read. -/
theorem map_entity_draftWith (records : List Fields) :
    (draftWith records classes files).collection.classes.map
        (draftWith records classes files).collection.graph.entity = classes ∧
      (draftWith records classes files).collection.files.map
        (draftWith records classes files).collection.graph.entity = files := by
  constructor
  · refine List.ext_getElem (by simp [draftWith]) fun place isPlace isClass => ?_
    have placed := @entity_class classes files records place isClass
    rw [List.getElem_map, ← placed]
    simp [draftWith]
  · refine List.ext_getElem (by simp [draftWith]) fun place isPlace isFile => ?_
    have placed := @entity_file classes files records place isFile
    rw [List.getElem_map, ← placed]
    simp [draftWith]

/-- The classes of a draft come first, and the files behind them. -/
theorem listed_draftWith (records : List Fields) :
    (draftWith records classes files).collection.classes ++
        (draftWith records classes files).collection.files =
      List.range (draftWith records classes files).collection.graph.size := by
  rw [size_draftWith, List.range_add]
  rfl

/-- All places together hold the entities read. -/
theorem entities_draftWith (records : List Fields) :
    (List.range (draftWith records classes files).collection.graph.size).map
      (draftWith records classes files).collection.graph.entity = classes ++ files := by
  rw [← listed_draftWith, List.map_append, (map_entity_draftWith records).1,
    (map_entity_draftWith records).2]

/-- Whether a draft is accepted depends on the entities read only. -/
theorem validate_draftWith_iff (records : List Fields) :
    (draftWith records classes files).collection.validate = .ok () ↔
      (∀ entity ∈ classes, entity.fullName ≠ "" ∧ entity.name.isGiven = true ∧
        entity.kind.isNamespace = true) ∧
      (∀ entity ∈ files, entity.fullName ≠ "" ∧ entity.name.isGiven = true ∧
        entity.kind.isNamespace = false ∧ entity.relativeName.isGiven = true) ∧
      ((classes ++ files).map Entity.fullName).Nodup := by
  obtain ⟨classesRead, filesRead⟩ := @map_entity_draftWith classes files records
  have read := @entities_draftWith classes files records
  have listed := @listed_draftWith classes files records
  generalize draftWith records classes files = draft at *
  rw [Collection.validate_eq_ok_iff, listed, ← read, ← classesRead, ← filesRead, List.map_map,
    List.forall_mem_map, List.forall_mem_map]
  simp only [Graph.checkClass_eq_ok_iff, Graph.checkFile_eq_ok_iff]
  rfl

/-- A record stands at the place of the entity read from it. -/
theorem IsReading.read_of_placed (reading : IsReading manifest classes files)
    {fields : Fields} {id : EntityId} (isPlaced : (fields, id) ∈
      (draftWith (recordsUnder "classes" manifest) classes files).records) :
    classOf (.record fields) =
      .ok ((draftWith (recordsUnder "classes" manifest) classes files).collection.graph.entity
        id) := by
  obtain ⟨place, isPlace, same⟩ := List.mem_iff_getElem.mp isPlaced
  have inRange : place < classes.length := by
    have bound := isPlace
    simp only [draftWith, List.length_zip, List.length_range] at bound
    omega
  have inRecords : place < (recordsUnder "classes" manifest).length := by
    rw [reading.classes.length_eq]
    exact inRange
  simp only [draftWith, List.getElem_zip, List.getElem_range, Prod.mk.injEq] at same
  obtain ⟨rfl, rfl⟩ := same
  have read := @entity_class classes files (recordsUnder "classes" manifest) place inRange
  rw [read]
  exact List.Forall₂.get reading.classes inRecords inRange

/-- Every class record has a place. -/
theorem IsReading.exists_place (reading : IsReading manifest classes files) {fields : Fields}
    (isRecord : fields ∈ recordsUnder "classes" manifest) :
    ∃ id, (fields, id) ∈
      (draftWith (recordsUnder "classes" manifest) classes files).records := by
  obtain ⟨place, isPlace, rfl⟩ := List.mem_iff_getElem.mp isRecord
  have inRange : place < classes.length := by
    rw [← reading.classes.length_eq]
    exact isPlace
  refine ⟨place, List.mem_iff_getElem.mpr ⟨place, ?_, ?_⟩⟩
  · simp only [draftWith, List.length_zip, List.length_range]
    omega
  · simp [draftWith]

end Places

/-- The promises of an accepted draft: what is linked later is named, told apart by its
name, and has no links yet. -/
structure Draft.IsChecked (draft : Draft) : Prop where
  named : ∀ id, id < draft.collection.graph.size → draft.collection.graph.IsNamed id
  relativeName : ∀ id, id < draft.collection.graph.size →
    ∃ relativeName, (draft.collection.graph.entity id).relativeName = .text relativeName
  parent : ∀ id, (draft.collection.graph.entity id).parent = none
  children : ∀ id, (draft.collection.graph.entity id).children = []
  mem_classes : ∀ id, id ∈ draft.collection.classes ↔
    id < draft.collection.graph.size ∧ draft.collection.graph.isNamespace id = true
  mem_files : ∀ id, id ∈ draft.collection.files ↔
    id < draft.collection.graph.size ∧ draft.collection.graph.isNamespace id = false
  listed : draft.collection.classes ++ draft.collection.files =
    List.range draft.collection.graph.size
  distinct : ((draft.collection.classes ++ draft.collection.files).map
    draft.collection.graph.fullName).Nodup
  placed : draft.records.map Prod.snd = draft.collection.classes
  typed : ∀ placed ∈ draft.records, isClassTyped placed.1 = true

/-- What each place of a draft holds was read from a record of its list. -/
theorem IsReading.unlinked {manifest : Value} (typed : isWellTyped manifest = true)
    {classes files : List Entity} (reading : IsReading manifest classes files) :
    (∀ entity ∈ classes, IsUnlinked entity ∧ entity.kind.isNamespace = true) ∧
      ∀ entity ∈ files, IsUnlinked entity ∧ entity.kind.isNamespace = false := by
  constructor
  · intro entity isClass
    obtain ⟨fields, isRecord, read⟩ := Pairing.exists_left reading.classes isClass
    exact classOf_eq_ok (isClassTyped_of_mem typed fields isRecord) read
  · intro entity isFile
    obtain ⟨fields, isRecord, read⟩ := Pairing.exists_left reading.files isFile
    exact fileOf_eq_ok (isFileTyped_of_mem typed fields isRecord) read

/-- An accepted draft of a well-typed manifest keeps its promises. -/
theorem IsReading.isChecked {manifest : Value} (typed : isWellTyped manifest = true)
    {classes files : List Entity} (reading : IsReading manifest classes files)
    (accepted : (draftWith (recordsUnder "classes" manifest) classes files).collection.validate =
      .ok ()) :
    (draftWith (recordsUnder "classes" manifest) classes files).IsChecked := by
  obtain ⟨classesRead, filesRead⟩ :=
    @map_entity_draftWith classes files (recordsUnder "classes" manifest)
  have listed := @listed_draftWith classes files (recordsUnder "classes" manifest)
  have size := @size_draftWith classes files (recordsUnder "classes" manifest)
  have placed : (draftWith (recordsUnder "classes" manifest) classes files).records.map Prod.snd =
      (draftWith (recordsUnder "classes" manifest) classes files).collection.classes := by
    simp [draftWith, List.map_snd_zip, reading.classes.length_eq]
  have recordsTyped :
      ∀ placed ∈ (draftWith (recordsUnder "classes" manifest) classes files).records,
        isClassTyped placed.1 = true := fun placed isPlaced =>
    isClassTyped_of_mem typed placed.1 (List.of_mem_zip isPlaced).1
  generalize draftWith (recordsUnder "classes" manifest) classes files = draft at *
  obtain ⟨classesUnlinked, filesUnlinked⟩ := reading.unlinked typed
  obtain ⟨classesPass, filesPass, distinct⟩ := Collection.validate_eq_ok_iff.mp accepted
  have classAt : ∀ id ∈ draft.collection.classes,
      IsUnlinked (draft.collection.graph.entity id) ∧
        draft.collection.graph.isNamespace id = true := fun id isClass =>
    classesUnlinked _ (by rw [← classesRead]; exact List.mem_map_of_mem isClass)
  have fileAt : ∀ id ∈ draft.collection.files,
      IsUnlinked (draft.collection.graph.entity id) ∧
        draft.collection.graph.isNamespace id = false := fun id isFile =>
    filesUnlinked _ (by rw [← filesRead]; exact List.mem_map_of_mem isFile)
  have isListed : ∀ id, id < draft.collection.graph.size ↔
      id ∈ draft.collection.classes ∨ id ∈ draft.collection.files := fun id => by
    rw [← List.mem_append, listed, List.mem_range]
  have unlinked : ∀ id, id < draft.collection.graph.size →
      IsUnlinked (draft.collection.graph.entity id) := fun id isPlace =>
    ((isListed id).mp isPlace).elim (fun isClass => (classAt id isClass).1)
      (fun isFile => (fileAt id isFile).1)
  exact
    { named := fun id isPlace => by
        refine ⟨(unlinked id isPlace).name, ?_⟩
        rcases (isListed id).mp isPlace with isClass | isFile
        · exact (Graph.checkClass_eq_ok_iff.mp (classesPass id isClass)).1
        · exact (Graph.checkFile_eq_ok_iff.mp (filesPass id isFile)).1
      relativeName := fun id isPlace => (unlinked id isPlace).relativeName
      parent := fun id => by
        by_cases isPlace : id < draft.collection.graph.size
        · exact (unlinked id isPlace).parent
        · rw [Graph.entity_outside (Nat.le_of_not_lt isPlace)]
          rfl
      children := fun id => by
        by_cases isPlace : id < draft.collection.graph.size
        · exact (unlinked id isPlace).children
        · rw [Graph.entity_outside (Nat.le_of_not_lt isPlace)]
          rfl
      mem_classes := fun id => by
        refine ⟨fun isClass => ⟨(isListed id).mpr (.inl isClass), (classAt id isClass).2⟩, ?_⟩
        rintro ⟨isPlace, isNamespace⟩
        refine ((isListed id).mp isPlace).resolve_right fun isFile => ?_
        exact absurd ((fileAt id isFile).2) (by simp [isNamespace])
      mem_files := fun id => by
        refine ⟨fun isFile => ⟨(isListed id).mpr (.inr isFile), (fileAt id isFile).2⟩, ?_⟩
        rintro ⟨isPlace, isNoNamespace⟩
        refine ((isListed id).mp isPlace).resolve_left fun isClass => ?_
        exact absurd ((classAt id isClass).2) (by simp [isNoNamespace])
      listed, distinct, placed, typed := recordsTyped }

end DocAtlas.Manifest
