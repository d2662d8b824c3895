import DocAtlas.Proofs.Checked
import DocAtlas.Proofs.Pairing
import DocAtlas.Proofs.Manifest.WellTyped

/-!
# Entities of well-typed records

This module says what the entity of a well-typed record is like before it is linked,
and which fields of the record have no part in it: the links of a record are not read
with it.
-/

namespace DocAtlas.Manifest

/-- An entity without links whose names are texts. -/
structure IsUnlinked (entity : Entity) : Prop where
  name : ∃ name, entity.name = .text name
  path : ∃ path, entity.path = .text path
  relativeName : ∃ relativeName, entity.relativeName = .text relativeName
  parent : entity.parent = none
  children : entity.children = []

/-- A text field that is not given is replaced by a text. -/
theorem orElse_text {fields : Fields} {name : String} (typed : fits Value.isText fields name = true)
    (other : String) : ∃ text, (Value.field name fields).orElse (.text other) = .text text := by
  unfold Value.orElse
  rcases fits_text typed with absent | ⟨text, found⟩
  · rw [absent]
    exact ⟨other, rfl⟩
  · rw [found]
    split
    · exact ⟨text, rfl⟩
    · exact ⟨other, rfl⟩

/-- The text fields of a typed class record fit texts. -/
theorem isClassTyped_text {fields : Fields} (typed : isClassTyped fields = true) {name : String}
    (isTextField : name ∈ ["name", "full_name", "kind", "parent", "path", "superclass"]) :
    fits Value.isText fields name = true := by
  unfold isClassTyped at typed
  simp only [Bool.and_eq_true, List.all_eq_true] at typed
  exact typed.1.1.1 name isTextField

/-- The text fields of a typed file record fit texts. -/
theorem isFileTyped_text {fields : Fields} (typed : isFileTyped fields = true) {name : String}
    (isTextField : name ∈ ["name", "full_name", "path", "relative_name"]) :
    fits Value.isText fields name = true := by
  unfold isFileTyped at typed
  simp only [Bool.and_eq_true, List.all_eq_true] at typed
  exact typed.1 name isTextField

/-- A class record gives a class or module that is named after it. -/
theorem classOf_eq_ok {fields : Fields} {entity : Entity} (typed : isClassTyped fields = true)
    (read : classOf (.record fields) = .ok entity) :
    IsUnlinked entity ∧ entity.kind.isNamespace = true := by
  unfold classOf at read
  simp only [Checked.bind_eq_ok] at read
  obtain ⟨_, isRecord, fullName, -, kind, isKind, records, -, methods, -, read⟩ := read
  cases isRecord
  cases read
  refine ⟨⟨orElse_text (isClassTyped_text typed (by simp)) _,
    orElse_text (isClassTyped_text typed (by simp)) _, ⟨"", rfl⟩, rfl, rfl⟩, ?_⟩
  -- Only the words of the two kinds of namespace are kinds of a class record.
  unfold kindOf at isKind
  split at isKind
  · rename_i word _
    split at isKind
    · rename_i named found
      cases isKind
      unfold Kind.ofNamespaceWord? at found
      split at found <;> simp_all <;> subst found <;> rfl
    · simp [refuse] at isKind
  · simp [reject] at isKind
  · simp [reject] at isKind
  · simp [refuse] at isKind

/-- A file record gives a file that is named after it. -/
theorem fileOf_eq_ok {fields : Fields} {entity : Entity} (typed : isFileTyped fields = true)
    (read : fileOf (.record fields) = .ok entity) :
    IsUnlinked entity ∧ entity.kind.isNamespace = false := by
  unfold fileOf at read
  simp only [Checked.bind_eq_ok] at read
  obtain ⟨_, isRecord, fullName, -, read⟩ := read
  cases isRecord
  cases read
  exact ⟨⟨orElse_text (isFileTyped_text typed (by simp)) _,
    orElse_text (isFileTyped_text typed (by simp)) _,
    orElse_text (isFileTyped_text typed (by simp)) _, rfl, rfl⟩, rfl⟩

/-- A class record stays typed when only its children change and these stay typed. -/
theorem isClassTyped_congr {left right : Fields}
    (agree : ∀ name, name ≠ "children" → Value.lookup name left = Value.lookup name right)
    (children : fits (Value.isListOf Value.isText) left "children" = true →
      fits (Value.isListOf Value.isText) right "children" = true)
    (typed : isClassTyped left = true) : isClassTyped right = true := by
  have same : ∀ (type : Value → Bool) name, name ≠ "children" →
      fits type left name = fits type right name := by
    intro type name isOther
    unfold fits Value.field
    rw [agree name isOther]
  unfold isClassTyped at typed ⊢
  simp only [Bool.and_eq_true, List.all_eq_true] at typed ⊢
  obtain ⟨⟨⟨texts, truth⟩, isChildren⟩, methods⟩ := typed
  refine ⟨⟨⟨fun name isText => ?_, ?_⟩, children isChildren⟩, ?_⟩
  · rw [← same _ _ (by rintro rfl; simp at isText)]
    exact texts name isText
  · rw [← same _ _ (by decide)]
    exact truth
  · rw [← same _ _ (by decide)]
    exact methods

/-- A class record is read from all its fields but its links. -/
theorem classOf_congr {left right : Fields}
    (agree : ∀ name, name ≠ "children" → Value.lookup name left = Value.lookup name right) :
    classOf (.record left) = classOf (.record right) := by
  have same : ∀ name, name ≠ "children" → Value.field name left = Value.field name right :=
    fun name differs => congrArg (Option.getD · Value.null) (agree name differs)
  unfold classOf requiredText kindOf nameOf
  simp only [fieldsOf, Checked.ok_bind, same "full_name" (by decide), same "name" (by decide),
    same "methods" (by decide), same "path" (by decide), same "documents_self" (by decide),
    same "superclass" (by decide), agree "kind" (by decide)]

/-- So is a file record. -/
theorem fileOf_congr {left right : Fields}
    (agree : ∀ name, name ≠ "children" → Value.lookup name left = Value.lookup name right) :
    fileOf (.record left) = fileOf (.record right) := by
  have same : ∀ name, name ≠ "children" → Value.field name left = Value.field name right :=
    fun name differs => congrArg (Option.getD · Value.null) (agree name differs)
  unfold fileOf requiredText nameOf
  simp only [fieldsOf, Checked.ok_bind, same "full_name" (by decide), same "name" (by decide),
    same "path" (by decide), same "relative_name" (by decide), agree "documents_self" (by decide)]

end DocAtlas.Manifest
