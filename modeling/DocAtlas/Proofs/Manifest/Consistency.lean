import DocAtlas.Proofs.Manifest.Linking
import DocAtlas.Proofs.Text.LastSegment

/-!
# Consistent manifests

This module says of a manifest alone, without entities or places, when its records fit
together: what has to be named is named, full names are distinct, references lead to
records, and parents lead to no cycle. Nothing in this depends on the order in which a
manifest is read. What is asked of one record is compared with the reading of that record.
-/

namespace DocAtlas

/-- Of a value and the one that stands in for it, one has to be given. -/
theorem Value.isGiven_orElse (value other : Value) :
    (value.orElse other).isGiven = (value.isGiven || other.isGiven) := by
  unfold orElse
  cases given : value.isGiven <;> simp [given]

namespace Manifest

/-- A class record has no kind, or the word of a class or a module. -/
def HasKnownKind (fields : Fields) : Prop :=
  Value.lookup "kind" fields = none ∨ Value.lookup "kind" fields = some (.text "class") ∨
    Value.lookup "kind" fields = some (.text "module")

/-- The method records of a class record. -/
def methodRecords (fields : Fields) : List Fields :=
  (Value.field "methods" fields).contents Value.record?

/-- A record gives a name, or its full name has a last segment that can stand for it. -/
def HasName (separator : String) (fields : Fields) : Prop :=
  (∃ name, givenText? "name" fields = some name) ∨
    ∃ fullName segment, givenText? "full_name" fields = some fullName ∧
      Text.IsLastSegment separator fullName segment ∧ segment ≠ ""

/-- The full names that the records of a manifest give, classes before files. -/
def fullNames (manifest : Value) : List String :=
  (recordsUnder "classes" manifest ++ recordsUnder "files" manifest).filterMap
    (givenText? "full_name")

/-- A class record of the first name gives the second name as its parent. -/
def NamesParent (manifest : Value) (child parent : String) : Prop :=
  ∃ fields ∈ recordsUnder "classes" manifest,
    givenText? "full_name" fields = some child ∧ givenText? "parent" fields = some parent

/-- A class record of the first name lists the second name among its children. -/
def ListsChild (manifest : Value) (container member : String) : Prop :=
  ∃ fields ∈ recordsUnder "classes" manifest,
    givenText? "full_name" fields = some container ∧ member ∈ childNames fields

/-- The records of a manifest fit together. Only class records have kinds, methods, parents
and children. -/
structure IsConsistent (manifest : Value) : Prop where
  fullName : ∀ fields ∈ recordsUnder "classes" manifest ++ recordsUnder "files" manifest,
    ∃ fullName, givenText? "full_name" fields = some fullName
  methodName : ∀ fields ∈ recordsUnder "classes" manifest, ∀ method ∈ methodRecords fields,
    ∃ name, givenText? "name" method = some name
  kind : ∀ fields ∈ recordsUnder "classes" manifest, HasKnownKind fields
  className : ∀ fields ∈ recordsUnder "classes" manifest, HasName "::" fields
  fileName : ∀ fields ∈ recordsUnder "files" manifest, HasName "/" fields
  distinct : (fullNames manifest).Nodup
  parent : ∀ fields ∈ recordsUnder "classes" manifest, ∀ name,
    givenText? "parent" fields = some name → name ∈ fullNames manifest
  child : ∀ fields ∈ recordsUnder "classes" manifest, ∀ name ∈ childNames fields,
    name ∈ fullNames manifest
  acyclic : ∀ fields ∈ recordsUnder "classes" manifest, ∀ fullName,
    givenText? "full_name" fields = some fullName →
      ¬ Relation.TransGen (NamesParent manifest) fullName fullName

/-- The name of a parent is the text given in its field. -/
theorem parentName?_eq (fields : Fields) : parentName? fields = givenText? "parent" fields := rfl

/-- A required text is the one that the record gives. -/
theorem requiredText_eq_ok_iff {fields : Fields} {name content : String}
    (typed : fits Value.isText fields name = true) :
    requiredText name fields = .ok content ↔ givenText? name fields = some content := by
  unfold requiredText
  dsimp only
  rcases givenText?_cases typed with ⟨notGiven, missing⟩ | ⟨other, isText, given, isOther⟩
  · simp [notGiven, missing, refuse]
  · rw [if_pos given, isText, isOther]
    simp

/-- The name of a typed record is the one given, or the last part of its full name. -/
theorem nameOf_eq {separator fullName : String} {fields : Fields}
    (typed : fits Value.isText fields "name" = true) :
    nameOf separator fullName fields =
      .text ((givenText? "name" fields).getD (Text.lastPart separator fullName)) := by
  unfold nameOf Value.orElse
  rcases givenText?_cases typed with ⟨notGiven, missing⟩ | ⟨name, isText, given, isName⟩
  · simp [notGiven, missing]
  · rw [if_pos given, isText, isName]
    rfl

/-- A typed record has a name exactly when its entity does. -/
theorem isGiven_nameOf_iff {separator fullName : String} {fields : Fields}
    (nonempty : separator ≠ "") (typed : fits Value.isText fields "name" = true)
    (isFullName : givenText? "full_name" fields = some fullName) :
    (nameOf separator fullName fields).isGiven = true ↔ HasName separator fields := by
  have lastSegment := Text.lastPart_isLastSegment nonempty fullName
  rw [nameOf_eq typed]
  unfold HasName
  cases isName : givenText? "name" fields with
  | some name => simp [Value.isGiven, givenText?_ne_empty isName]
  | none =>
      simp only [Option.getD_none, Value.isGiven, decide_eq_true_eq, reduceCtorEq, exists_false,
        false_or, isFullName, Option.some.injEq]
      constructor
      · exact fun named => ⟨fullName, _, rfl, lastSegment, named⟩
      · rintro ⟨_, segment, rfl, isLast, named⟩
        rwa [lastSegment.unique nonempty isLast]

/-- Two words name a kind of class record. -/
theorem exists_ofNamespaceWord?_iff {word : String} :
    (∃ kind, Kind.ofNamespaceWord? word = some kind) ↔ word = "class" ∨ word = "module" := by
  unfold Kind.ofNamespaceWord?
  split
  · simp
  · simp
  · simp_all

/-- A typed kind is read exactly when it is known. -/
theorem exists_kindOf_iff {fullName : String} {fields : Fields}
    (typed : fits Value.isText fields "kind" = true) :
    (∃ kind, kindOf fullName fields = .ok kind) ↔ HasKnownKind fields := by
  unfold kindOf HasKnownKind
  unfold fits Value.field at typed
  cases present : Value.lookup "kind" fields with
  | none => simp [Kind.ofNamespaceWord?, Kind.word]
  | some value =>
      rw [present, Option.getD_some] at typed
      cases value with
      | null => simp [refuse]
      | text word =>
          simp only [Option.getD_some, reduceCtorEq, Option.some.injEq, Value.text.injEq,
            false_or]
          rw [← exists_ofNamespaceWord?_iff]
          cases Kind.ofNamespaceWord? word <;> simp [refuse]
      | _ => simp [Value.isText] at typed

/-- The method records of a typed class record are listed as they stand, and are typed. -/
theorem listedOf_methods {fields : Fields} (typed : isClassTyped fields = true) :
    listedOf (Value.field "methods" fields) = .ok ((methodRecords fields).map Value.record) ∧
      ∀ method ∈ methodRecords fields, isMethodTyped method = true := by
  unfold isClassTyped at typed
  exact listedOf_records (Bool.and_eq_true_iff.mp typed).2

/-- A typed method record is read exactly when it is named. -/
theorem exists_methodOf_iff {fields : Fields} (typed : isMethodTyped fields = true) :
    (∃ method, methodOf (.record fields) = .ok method) ↔
      ∃ name, givenText? "name" fields = some name := by
  have nameTyped : fits Value.isText fields "name" = true := by
    unfold isMethodTyped at typed
    exact List.all_eq_true.mp typed "name" (by simp)
  unfold methodOf
  simp only [fieldsOf, Checked.ok_bind, Checked.bind_eq_ok, requiredText_eq_ok_iff nameTyped]
  constructor
  · rintro ⟨_, name, isName, -⟩
    exact ⟨name, isName⟩
  · rintro ⟨name, isName⟩
    exact ⟨_, name, isName, rfl⟩

/-- What is given for a class record to be read. -/
structure IsReadableClass (fields : Fields) : Prop where
  fullName : ∃ fullName, givenText? "full_name" fields = some fullName
  kind : HasKnownKind fields
  methodName : ∀ method ∈ methodRecords fields, ∃ name, givenText? "name" method = some name

/-- A typed class record is read exactly when what it needs is given. -/
theorem exists_classOf_iff {fields : Fields} (typed : isClassTyped fields = true) :
    (∃ entity, classOf (.record fields) = .ok entity) ↔ IsReadableClass fields := by
  obtain ⟨listed, methodsTyped⟩ := listedOf_methods typed
  have methodsRead :
      (∃ methods, ((methodRecords fields).map Value.record).mapM methodOf = .ok methods) ↔
        ∀ method ∈ methodRecords fields, ∃ name, givenText? "name" method = some name := by
    simp only [Checked.mapM_eq_ok, List.forall₂_map_left_iff]
    constructor
    · rintro ⟨methods, read⟩ method isMethod
      obtain ⟨result, -, isRead⟩ := Pairing.exists_right read isMethod
      exact (exists_methodOf_iff (methodsTyped method isMethod)).mp ⟨result, isRead⟩
    · intro named
      exact Pairing.exists_forall₂ fun method isMethod =>
        (exists_methodOf_iff (methodsTyped method isMethod)).mpr (named method isMethod)
  have fullNameTyped := @isClassTyped_text _ typed "full_name" (by simp)
  unfold classOf
  simp only [fieldsOf, Checked.ok_bind, Checked.bind_eq_ok, listed,
    requiredText_eq_ok_iff fullNameTyped]
  constructor
  · rintro ⟨_, fullName, isFullName, kind, isKind, methods, read, -⟩
    exact ⟨⟨fullName, isFullName⟩,
      (exists_kindOf_iff (isClassTyped_text typed (by simp))).mp ⟨kind, isKind⟩,
      methodsRead.mp ⟨methods, read⟩⟩
  · rintro ⟨⟨fullName, isFullName⟩, isKnown, named⟩
    obtain ⟨kind, isKind⟩ :=
      (@exists_kindOf_iff fullName _ (isClassTyped_text typed (by simp))).mpr isKnown
    obtain ⟨methods, read⟩ := methodsRead.mpr named
    exact ⟨_, fullName, isFullName, kind, isKind, methods, read, rfl⟩

/-- The entity of a class record has the full name that the record gives, and a name when the
record has one. -/
theorem names_of_classOf {fields : Fields} {entity : Entity} (typed : isClassTyped fields = true)
    (read : classOf (.record fields) = .ok entity) :
    givenText? "full_name" fields = some entity.fullName ∧
      (entity.name.isGiven = true ↔ HasName "::" fields) := by
  have fullNameTyped := @isClassTyped_text _ typed "full_name" (by simp)
  unfold classOf at read
  simp only [fieldsOf, Checked.ok_bind, Checked.bind_eq_ok,
    requiredText_eq_ok_iff fullNameTyped] at read
  obtain ⟨fullName, isFullName, _, -, _, -, _, -, made⟩ := read
  cases made
  exact ⟨isFullName, isGiven_nameOf_iff (by decide) (isClassTyped_text typed (by simp)) isFullName⟩

/-- A typed file record is read exactly when it has a full name. -/
theorem exists_fileOf_iff {fields : Fields} (typed : isFileTyped fields = true) :
    (∃ entity, fileOf (.record fields) = .ok entity) ↔
      ∃ fullName, givenText? "full_name" fields = some fullName := by
  have fullNameTyped := @isFileTyped_text _ typed "full_name" (by simp)
  unfold fileOf
  simp only [fieldsOf, Checked.ok_bind, Checked.bind_eq_ok,
    requiredText_eq_ok_iff fullNameTyped]
  constructor
  · rintro ⟨_, fullName, isFullName, -⟩
    exact ⟨fullName, isFullName⟩
  · rintro ⟨fullName, isFullName⟩
    exact ⟨_, fullName, isFullName, rfl⟩

/-- So has the entity of a file record, which has a relative name in any case. -/
theorem names_of_fileOf {fields : Fields} {entity : Entity} (typed : isFileTyped fields = true)
    (read : fileOf (.record fields) = .ok entity) :
    givenText? "full_name" fields = some entity.fullName ∧
      (entity.name.isGiven = true ↔ HasName "/" fields) ∧
        entity.relativeName.isGiven = true := by
  have fullNameTyped := @isFileTyped_text _ typed "full_name" (by simp)
  unfold fileOf at read
  simp only [fieldsOf, Checked.ok_bind, Checked.bind_eq_ok,
    requiredText_eq_ok_iff fullNameTyped] at read
  obtain ⟨fullName, isFullName, made⟩ := read
  cases made
  refine ⟨isFullName,
    isGiven_nameOf_iff (by decide) (isFileTyped_text typed (by simp)) isFullName, ?_⟩
  rw [Value.isGiven_orElse]
  simp [Value.isGiven, givenText?_ne_empty isFullName]

end Manifest

end DocAtlas
