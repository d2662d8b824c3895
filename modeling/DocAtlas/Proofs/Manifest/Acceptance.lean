import DocAtlas.Proofs.Manifest.Loading
import DocAtlas.Proofs.Manifest.Refusal

/-!
# Acceptance of manifests

A well-typed manifest is loaded exactly when its records fit together, and is refused for a
fault of its entities otherwise. Each stage of loading is compared with what it asks of the
records: the reading, the check of the draft, the links, and the search for cycles, whose
parents by place are the parents by name.
-/

namespace DocAtlas.Manifest

/-- The draft of a manifest whose entities have been read. -/
abbrev IsReading.draft {manifest : Value} {classes files : List Entity}
    (_reading : IsReading manifest classes files) : Draft :=
  draftWith (recordsUnder "classes" manifest) classes files

section Reading

variable {manifest : Value} (typed : isWellTyped manifest = true)
include typed

/-- Every record of a typed manifest is read when what it needs is given. -/
theorem exists_reading_iff :
    (∃ classes files, IsReading manifest classes files) ↔
      (∀ fields ∈ recordsUnder "classes" manifest, IsReadableClass fields) ∧
        ∀ fields ∈ recordsUnder "files" manifest,
          ∃ fullName, givenText? "full_name" fields = some fullName := by
  have classesTyped := isClassTyped_of_mem typed
  have filesTyped := isFileTyped_of_mem typed
  constructor
  · rintro ⟨classes, files, reading⟩
    refine ⟨fun fields isRecord => ?_, fun fields isRecord => ?_⟩
    · obtain ⟨entity, -, read⟩ := Pairing.exists_right reading.classes isRecord
      exact (exists_classOf_iff (classesTyped fields isRecord)).mp ⟨entity, read⟩
    · obtain ⟨entity, -, read⟩ := Pairing.exists_right reading.files isRecord
      exact (exists_fileOf_iff (filesTyped fields isRecord)).mp ⟨entity, read⟩
  · rintro ⟨classesReadable, filesNamed⟩
    obtain ⟨classes, classesRead⟩ := Pairing.exists_forall₂ fun fields isRecord =>
      (exists_classOf_iff (classesTyped fields isRecord)).mpr (classesReadable fields isRecord)
    obtain ⟨files, filesRead⟩ := Pairing.exists_forall₂ fun fields isRecord =>
      (exists_fileOf_iff (filesTyped fields isRecord)).mpr (filesNamed fields isRecord)
    exact ⟨classes, files, classesRead, filesRead⟩

variable {classes files : List Entity} (reading : IsReading manifest classes files)
include reading

/-- The entities of a manifest have the full names that its records give. -/
theorem IsReading.map_fullName :
    (classes ++ files).map Entity.fullName = fullNames manifest := by
  unfold fullNames
  rw [List.map_append, List.filterMap_append,
    Pairing.filterMap_eq_map reading.classes fun fields entity isRecord read =>
      (names_of_classOf (isClassTyped_of_mem typed fields isRecord) read).1,
    Pairing.filterMap_eq_map reading.files fun fields entity isRecord read =>
      (names_of_fileOf (isFileTyped_of_mem typed fields isRecord) read).1]

/-- A draft is accepted when all records have names and the full names are distinct. -/
theorem IsReading.validate_iff :
    reading.draft.collection.validate = .ok () ↔
      (∀ fields ∈ recordsUnder "classes" manifest, HasName "::" fields) ∧
        (∀ fields ∈ recordsUnder "files" manifest, HasName "/" fields) ∧
        (fullNames manifest).Nodup := by
  obtain ⟨classesUnlinked, filesUnlinked⟩ := reading.unlinked typed
  rw [validate_draftWith_iff, reading.map_fullName typed]
  constructor
  · rintro ⟨classesPass, filesPass, distinct⟩
    refine ⟨fun fields isRecord => ?_, fun fields isRecord => ?_, distinct⟩
    · obtain ⟨entity, isClass, read⟩ := Pairing.exists_right reading.classes isRecord
      have names := names_of_classOf (isClassTyped_of_mem typed fields isRecord) read
      exact names.2.mp (classesPass entity isClass).2.1
    · obtain ⟨entity, isFile, read⟩ := Pairing.exists_right reading.files isRecord
      have names := names_of_fileOf (isFileTyped_of_mem typed fields isRecord) read
      exact names.2.1.mp (filesPass entity isFile).2.1
  · rintro ⟨classesHaveNames, filesHaveNames, distinct⟩
    refine ⟨fun entity isClass => ?_, fun entity isFile => ?_, distinct⟩
    · obtain ⟨fields, isRecord, read⟩ := Pairing.exists_left reading.classes isClass
      obtain ⟨isFullName, named⟩ :=
        names_of_classOf (isClassTyped_of_mem typed fields isRecord) read
      exact ⟨givenText?_ne_empty isFullName, named.mpr (classesHaveNames fields isRecord),
        (classesUnlinked entity isClass).2⟩
    · obtain ⟨fields, isRecord, read⟩ := Pairing.exists_left reading.files isFile
      obtain ⟨isFullName, named, hasRelativeName⟩ :=
        names_of_fileOf (isFileTyped_of_mem typed fields isRecord) read
      exact ⟨givenText?_ne_empty isFullName, named.mpr (filesHaveNames fields isRecord),
        (filesUnlinked entity isFile).2, hasRelativeName⟩

/-- The full name of a placed record is that of its place. -/
theorem IsReading.fullName_of_placed {fields : Fields} {id : EntityId}
    (isPlaced : (fields, id) ∈ reading.draft.records) :
    givenText? "full_name" fields = some (reading.draft.collection.graph.fullName id) :=
  (names_of_classOf (isClassTyped_of_mem typed fields (List.of_mem_zip isPlaced).1)
    (reading.read_of_placed isPlaced)).1

variable (checked : reading.draft.IsChecked)
include checked

/-- A name finds an entity when it is the full name of a record. -/
theorem IsReading.exists_find?_iff {name : String} :
    (∃ id, reading.draft.collection.find? name = some id) ↔ name ∈ fullNames manifest := by
  have entities := @entities_draftWith classes files (recordsUnder "classes" manifest)
  simp only [checked.find?_eq_some_iff]
  rw [← reading.map_fullName typed, ← entities, List.map_map, List.mem_map]
  simp only [List.mem_range]
  rfl

/-- References are resolved when they are full names of records. -/
theorem IsReading.resolves_iff :
    reading.draft.Resolves ↔
      ∀ fields ∈ recordsUnder "classes" manifest, ∀ name,
        givenText? "parent" fields = some name ∨ name ∈ childNames fields →
          name ∈ fullNames manifest := by
  unfold Draft.Resolves
  simp only [reading.exists_find?_iff typed checked, parentName?_eq]
  constructor
  · intro resolves fields isRecord
    obtain ⟨id, isPlaced⟩ := reading.exists_place isRecord
    exact resolves _ isPlaced
  · intro resolves placed isPlaced
    exact resolves placed.1 (List.of_mem_zip isPlaced).1

/-- Parents by place are parents by name. -/
theorem IsReading.namesParent_of_hasParent {child parent : EntityId}
    (hasParent : reading.draft.linked.graph.HasParent child parent) :
    NamesParent manifest (reading.draft.collection.graph.fullName child)
      (reading.draft.collection.graph.fullName parent) := by
  obtain ⟨fields, name, isPlaced, isParent, found⟩ := checked.hasParent_iff.mp hasParent
  obtain ⟨-, rfl⟩ := checked.find?_eq_some_iff.mp found
  exact ⟨fields, (List.of_mem_zip isPlaced).1, reading.fullName_of_placed typed isPlaced,
    isParent⟩

/-- Parents by name are parents by place, where they are found. -/
theorem IsReading.hasParent_of_namesParent (resolves : reading.draft.ResolvesParents)
    {id : EntityId} {name : String} (isPlace : id < reading.draft.collection.graph.size)
    (namesParent : NamesParent manifest (reading.draft.collection.graph.fullName id) name) :
    ∃ parent, reading.draft.linked.graph.HasParent id parent ∧
      parent < reading.draft.collection.graph.size ∧
      reading.draft.collection.graph.fullName parent = name := by
  obtain ⟨fields, isRecord, isFullName, isParent⟩ := namesParent
  obtain ⟨other, isPlaced⟩ := reading.exists_place isRecord
  rw [reading.fullName_of_placed typed isPlaced, Option.some.injEq] at isFullName
  have otherPlace := checked.placed_lt isPlaced
  obtain rfl := checked.eq_of_fullName_eq otherPlace isPlace isFullName
  obtain ⟨parent, found⟩ := resolves _ isPlaced name isParent
  obtain ⟨parentPlace, isName⟩ := checked.find?_eq_some_iff.mp found
  exact ⟨parent, checked.hasParent_iff.mpr ⟨fields, name, isPlaced, isParent, found⟩,
    parentPlace, isName⟩

/-- A way up by names is followed place by place; its end has the name of its end. -/
theorem IsReading.transGen_of_namesParent (resolves : reading.draft.ResolvesParents) {id : EntityId}
    {name : String} (isPlace : id < reading.draft.collection.graph.size)
    (way : Relation.TransGen (NamesParent manifest)
      (reading.draft.collection.graph.fullName id) name) :
    ∃ above, Relation.TransGen reading.draft.linked.graph.HasParent id above ∧
      above < reading.draft.collection.graph.size ∧
      reading.draft.collection.graph.fullName above = name := by
  have step := @IsReading.hasParent_of_namesParent _ typed _ _ reading checked resolves
  induction way with
  | single namesParent =>
      obtain ⟨parent, hasParent, parentPlace, isName⟩ := step isPlace namesParent
      exact ⟨parent, .single hasParent, parentPlace, isName⟩
  | tail _ namesParent inductionHypothesis =>
      obtain ⟨above, way, abovePlace, rfl⟩ := inductionHypothesis
      obtain ⟨parent, hasParent, parentPlace, isName⟩ := step abovePlace namesParent
      exact ⟨parent, way.tail hasParent, parentPlace, isName⟩

/-- An entity is above itself when its name is. -/
theorem IsReading.cycle_iff (resolves : reading.draft.ResolvesParents) {id : EntityId}
    (isPlace : id < reading.draft.collection.graph.size) :
    Relation.TransGen reading.draft.linked.graph.HasParent id id ↔
      Relation.TransGen (NamesParent manifest) (reading.draft.collection.graph.fullName id)
        (reading.draft.collection.graph.fullName id) := by
  constructor
  · intro cycle
    exact cycle.lift reading.draft.collection.graph.fullName fun _ _ =>
      reading.namesParent_of_hasParent typed checked
  · intro cycle
    obtain ⟨above, way, abovePlace, isName⟩ :=
      reading.transGen_of_namesParent typed checked resolves isPlace cycle
    obtain rfl := checked.eq_of_fullName_eq abovePlace isPlace isName
    exact way

/-- No entity is above itself when no class record is, by name. -/
theorem IsReading.acyclic_iff (resolves : reading.draft.Resolves) :
    (∀ id, ¬ Relation.TransGen reading.draft.linked.graph.HasParent id id) ↔
      ∀ fields ∈ recordsUnder "classes" manifest, ∀ fullName,
        givenText? "full_name" fields = some fullName →
          ¬ Relation.TransGen (NamesParent manifest) fullName fullName := by
  have cycle_iff := @IsReading.cycle_iff _ typed _ _ reading checked resolves.parents
  constructor
  · intro acyclic fields isRecord fullName isFullName cycle
    obtain ⟨id, isPlaced⟩ := reading.exists_place isRecord
    rw [reading.fullName_of_placed typed isPlaced, Option.some.injEq] at isFullName
    subst isFullName
    exact acyclic id ((cycle_iff (checked.placed_lt isPlaced)).mpr cycle)
  · intro acyclic id cycle
    obtain ⟨parent, hasParent, -⟩ := Relation.TransGen.head'_iff.mp cycle
    obtain ⟨fields, -, isPlaced, -⟩ := checked.hasParent_iff.mp hasParent
    exact acyclic fields (List.of_mem_zip isPlaced).1 _ (reading.fullName_of_placed typed isPlaced)
      ((cycle_iff (checked.placed_lt isPlaced)).mp cycle)

end Reading

/-- A well-typed manifest is loaded exactly when its records fit together; otherwise it is
refused for a fault of its entities. -/
theorem load_accepts_consistent {manifest : Value} (typed : isWellTyped manifest = true) :
    ((∃ collection, load manifest = .ok collection) ↔ IsConsistent manifest) ∧
      (¬ IsConsistent manifest →
        ∃ cause, load manifest = .error (.fault cause) ∧ cause.family = .entity) := by
  have accepts : (∃ collection, load manifest = .ok collection) ↔ IsConsistent manifest := by
    constructor
    · rintro ⟨collection, loaded⟩
      obtain ⟨draft, loadable, -⟩ := (load_eq_ok_iff typed).mp loaded
      obtain ⟨classes, files, reading, rfl⟩ := (draftOf_eq_ok_iff typed).mp loadable.drafted
      have checked := loadable.checked
      obtain ⟨classesReadable, filesNamed⟩ := (exists_reading_iff typed).mp ⟨_, _, reading⟩
      obtain ⟨className, fileName, distinct⟩ := (reading.validate_iff typed).mp loadable.accepted
      have resolves := (reading.resolves_iff typed checked).mp loadable.resolves
      exact
        { fullName := List.forall_mem_append.mpr
            ⟨fun fields isRecord => (classesReadable fields isRecord).fullName, filesNamed⟩
          methodName := fun fields isRecord => (classesReadable fields isRecord).methodName
          kind := fun fields isRecord => (classesReadable fields isRecord).kind
          className, fileName, distinct
          parent := fun fields isRecord name isParent =>
            resolves fields isRecord name (.inl isParent)
          child := fun fields isRecord name isChild =>
            resolves fields isRecord name (.inr isChild)
          acyclic := (reading.acyclic_iff typed checked loadable.resolves).mp loadable.acyclic }
    · intro consistent
      obtain ⟨classesNamed, filesNamed⟩ := List.forall_mem_append.mp consistent.fullName
      obtain ⟨classes, files, reading⟩ := (exists_reading_iff typed).mpr
        ⟨fun fields isRecord => ⟨classesNamed fields isRecord, consistent.kind fields isRecord,
          consistent.methodName fields isRecord⟩, filesNamed⟩
      have accepted := (reading.validate_iff typed).mpr
        ⟨consistent.className, consistent.fileName, consistent.distinct⟩
      have checked := reading.isChecked typed accepted
      have resolves := (reading.resolves_iff typed checked).mpr fun fields isRecord name isUsed =>
        isUsed.elim (consistent.parent fields isRecord name) (consistent.child fields isRecord name)
      have acyclic := (reading.acyclic_iff typed checked resolves).mpr consistent.acyclic
      have drafted := (draftOf_eq_ok_iff typed).mpr ⟨classes, files, reading, rfl⟩
      exact ⟨_, (load_eq_ok_iff typed).mpr
        ⟨_, ⟨drafted, accepted, checked, resolves, acyclic⟩, rfl⟩⟩
  refine ⟨accepts, fun inconsistent => ?_⟩
  cases answer : load manifest with
  | ok collection => exact absurd (accepts.mp ⟨collection, answer⟩) inconsistent
  | error failure =>
      obtain ⟨cause, rfl, isEntityFault⟩ := load_blames typed failure answer
      exact ⟨cause, rfl, isEntityFault⟩

/-- A manifest whose class `A::B` takes its name from its full name, stands in a file and is
listed by the module `A`, which lists itself. -/
def aliased : Value :=
  .record
    [("classes", .list
      [.record [("full_name", .text "A::B"), ("parent", .text "lib/a.rb"),
        ("methods", .list [.record [("name", .text "call")]])],
       .record [("full_name", .text "A"), ("kind", .text "module"), ("parent", .text ""),
        ("children", .list [.text "A::B", .text "A"])]]),
     ("files", .list [.record [("full_name", .text "lib/a.rb")]])]

/-- A manifest where `A` and `B` name each other as parents, and `C` stands below them. -/
def looping : Value :=
  .record
    [("classes", .list
      [.record [("full_name", .text "C"), ("parent", .text "A")],
       .record [("full_name", .text "A"), ("parent", .text "B")],
       .record [("full_name", .text "B"), ("parent", .text "A")]])]

/-- The first of the two manifests is loaded, and its records fit together; the second one is
refused. -/
theorem aliased_consistent_looping_refused :
    isWellTyped aliased = true ∧ IsConsistent aliased ∧ isWellTyped looping = true ∧
      ¬ IsConsistent looping ∧
      ∃ cause, load looping = .error (.fault cause) ∧ cause.family = .entity := by
  have aliasedTyped : isWellTyped aliased = true := by decide
  have loopingTyped : isWellTyped looping = true := by decide
  have aliasedLoaded : ∃ collection, load aliased = .ok collection := ⟨_, rfl⟩
  have inconsistent : ¬ IsConsistent looping := by
    intro consistent
    obtain ⟨collection, loaded⟩ := (load_accepts_consistent loopingTyped).1.mpr consistent
    exact absurd loaded nofun
  exact ⟨aliasedTyped, (load_accepts_consistent aliasedTyped).1.mp aliasedLoaded, loopingTyped,
    inconsistent, (load_accepts_consistent loopingTyped).2 inconsistent⟩

end DocAtlas.Manifest
