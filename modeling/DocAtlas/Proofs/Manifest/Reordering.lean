import DocAtlas.Proofs.Manifest.Linking

/-!
# Reordered manifests

A manifest is reordered when its class records, its file records and the `children` list
of each record are permuted. This module defines that relation on values and says what
it leaves as it is: the types of all fields, and of each record everything but the order
of its children.
-/

namespace DocAtlas.Manifest

/-- The value of one field is not looked up under the name of another. -/
theorem lookup_of_ne {listed name : String} {value other : Value} (before after : Fields)
    (isOther : name ≠ listed) :
    Value.lookup name (before ++ (listed, value) :: after) =
      Value.lookup name (before ++ (listed, other) :: after) := by
  have passesOver : (listed == name) = false := beq_eq_false_iff_ne.mpr isOther.symm
  simp [Value.lookup, passesOver]

/-- Lists whose items are related in some order, or equal values. -/
inductive Shuffled (related : Value → Value → Prop) : Value → Value → Prop where
  | same {value} : Shuffled related value value
  | list {left middle right} (perm : left.Perm middle)
      (inStep : List.Forall₂ related middle right) : Shuffled related (.list left) (.list right)

/-- Records that agree on all their fields, except for some whose values are related. -/
inductive AgreeUpTo (names : List String) (related : Value → Value → Prop) :
    Value → Value → Prop where
  | record {left right}
      (others : ∀ name, name ∉ names → Value.lookup name left = Value.lookup name right)
      (listed : ∀ name ∈ names, related (Value.field name left) (Value.field name right)) :
      AgreeUpTo names related (.record left) (.record right)

/-- Records that differ in the order of their children only. -/
def IsReorderedRecord : Value → Value → Prop :=
  AgreeUpTo ["children"] (Shuffled Eq)

/-- Manifests that differ in the order of their records and of the children of records
only. -/
def IsReordered : Value → Value → Prop :=
  AgreeUpTo ["classes", "files"] (Shuffled IsReorderedRecord)

/-- Being shuffled is mutual when the items are related mutually. -/
theorem Shuffled.symm {related : Value → Value → Prop}
    (symmetric : ∀ left right, related left right → related right left) {left right : Value}
    (shuffled : Shuffled related left right) : Shuffled related right left := by
  cases shuffled with
  | same => exact .same
  | list perm inStep =>
      obtain ⟨others, inStep, perm⟩ := Pairing.perm_behind perm inStep
      refine .list perm.symm (List.Forall₂.flip ?_)
      exact inStep.imp symmetric

/-- Agreeing up to some fields is mutual when these are related mutually. -/
theorem AgreeUpTo.symm {names : List String} {related : Value → Value → Prop}
    (symmetric : ∀ left right, related left right → related right left) {left right : Value}
    (agree : AgreeUpTo names related left right) : AgreeUpTo names related right left := by
  obtain ⟨others, listed⟩ := agree
  exact .record (fun name isOther => (others name isOther).symm)
    fun name isListed => symmetric _ _ (listed name isListed)

/-- A record is a reordering of itself. -/
theorem IsReorderedRecord.refl (fields : Fields) :
    IsReorderedRecord (.record fields) (.record fields) :=
  .record (fun _ _ => rfl) fun _ _ => .same

/-- What is reordered can be put back into its order. -/
theorem IsReorderedRecord.symm {left right : Value} (reordered : IsReorderedRecord left right) :
    IsReorderedRecord right left := by
  refine AgreeUpTo.symm (fun left right shuffled => ?_) reordered
  exact shuffled.symm fun _ _ => Eq.symm

/-- Being reordered is mutual. -/
theorem IsReordered.symm {left right : Value} (reordered : IsReordered left right) :
    IsReordered right left := by
  refine AgreeUpTo.symm (fun left right shuffled => ?_) reordered
  exact shuffled.symm fun _ _ => IsReorderedRecord.symm

section Types

/-- Records that agree up to some fields have the same in every other. -/
theorem AgreeUpTo.field_eq {names : List String} {related : Value → Value → Prop}
    {left right : Fields} (agree : AgreeUpTo names related (.record left) (.record right))
    {name : String} (isOther : name ∉ names) :
    Value.field name left = Value.field name right := by
  cases agree with
  | record others _ => exact congrArg (Option.getD · Value.null) (others name isOther)

/-- Records that agree up to some fields fit the same types in every other. -/
theorem AgreeUpTo.fits_eq {names : List String} {related : Value → Value → Prop}
    {left right : Fields} (agree : AgreeUpTo names related (.record left) (.record right))
    {name : String} (isOther : name ∉ names) (type : Value → Bool) :
    fits type left name = fits type right name := by
  unfold fits
  rw [agree.field_eq isOther]

/-- A shuffled list holds items of the same type. -/
theorem fits_of_shuffled {related : Value → Value → Prop} {type : Value → Bool}
    (keeps : ∀ item other, related item other → type item = true → type other = true)
    {left right : Fields} {name : String}
    (shuffled : Shuffled related (Value.field name left) (Value.field name right))
    (typed : fits (Value.isListOf type) left name = true) :
    fits (Value.isListOf type) right name = true := by
  unfold fits at typed ⊢
  generalize Value.field name left = list at shuffled typed
  generalize Value.field name right = other at shuffled ⊢
  cases shuffled with
  | same => exact typed
  | @list items middle others perm inStep =>
      have typed : items.all type = true := typed
      show others.all type = true
      rw [List.all_eq_true] at typed ⊢
      intro other isOther
      obtain ⟨item, isItem, pair⟩ := Pairing.exists_left inStep isOther
      exact keeps item other pair (typed item (perm.mem_iff.mpr isItem))

/-- A reordered class record is typed as the record is. -/
theorem isClassTyped_of_reordered {left right : Fields}
    (reordered : IsReorderedRecord (.record left) (.record right))
    (typed : isClassTyped left = true) : isClassTyped right = true := by
  cases reordered with
  | record others listed =>
      refine isClassTyped_congr (fun name isOther => others name (by simpa using isOther)) ?_ typed
      exact fits_of_shuffled (by rintro _ _ rfl; exact id) (listed "children" (by decide))

/-- A reordered file record is typed as the record is. -/
theorem isFileTyped_of_reordered {left right : Fields}
    (reordered : IsReorderedRecord (.record left) (.record right))
    (typed : isFileTyped left = true) : isFileTyped right = true := by
  unfold isFileTyped at typed ⊢
  simp only [Bool.and_eq_true, List.all_eq_true] at typed ⊢
  refine ⟨fun name isText => ?_, ?_⟩
  · rw [← reordered.fits_eq (by rintro isChildren; simp_all)]
    exact typed.1 name isText
  · rw [← reordered.fits_eq (by decide)]
    exact typed.2

/-- Reordering keeps a manifest well typed. -/
theorem IsReordered.isWellTyped {left right : Value} (reordered : IsReordered left right)
    (typed : isWellTyped left = true) : isWellTyped right = true := by
  cases reordered with
  | record _ listed =>
      obtain ⟨classesTyped, filesTyped⟩ := Bool.and_eq_true_iff.mp typed
      refine Bool.and_eq_true_iff.mpr ⟨?_, ?_⟩
      · refine fits_of_shuffled ?_ (listed "classes" (by decide)) classesTyped
        rintro _ _ ⟨others, listed⟩ isTyped
        exact isClassTyped_of_reordered (.record others listed) isTyped
      · refine fits_of_shuffled ?_ (listed "files" (by decide)) filesTyped
        rintro _ _ ⟨others, listed⟩ isTyped
        exact isFileTyped_of_reordered (.record others listed) isTyped

end Types

section Records

/-- Two records of fields that differ in the order of their children only. -/
def SameButOrder (left right : Fields) : Prop :=
  IsReorderedRecord (.record left) (.record right)

/-- Records that differ in the order of children look up the same elsewhere. -/
theorem SameButOrder.lookup_eq {left right : Fields} (same : SameButOrder left right)
    {name : String} (isOther : name ≠ "children") :
    Value.lookup name left = Value.lookup name right := by
  cases same with
  | record others _ => exact others name (by simpa using isOther)

/-- Records that differ in the order of children give the same class. -/
theorem SameButOrder.classOf_eq {left right : Fields} (same : SameButOrder left right) :
    classOf (.record left) = classOf (.record right) :=
  classOf_congr fun _ => same.lookup_eq

/-- Records that differ in the order of children give the same file. -/
theorem SameButOrder.fileOf_eq {left right : Fields} (same : SameButOrder left right) :
    fileOf (.record left) = fileOf (.record right) :=
  fileOf_congr fun _ => same.lookup_eq

/-- Records that differ in the order of children give the same texts. -/
theorem SameButOrder.givenText?_eq {left right : Fields} (same : SameButOrder left right)
    {name : String} (isOther : name ≠ "children") :
    givenText? name left = givenText? name right := by
  unfold givenText? Value.field
  rw [same.lookup_eq isOther]

/-- Records that differ in the order of children name the same children. -/
theorem SameButOrder.mem_childNames {left right : Fields} (same : SameButOrder left right)
    {name : String} : name ∈ childNames left ↔ name ∈ childNames right := by
  unfold childNames
  cases same with
  | record _ listed =>
      have shuffled := listed "children" (by decide)
      generalize Value.field "children" left = children at shuffled ⊢
      generalize Value.field "children" right = others at shuffled ⊢
      cases shuffled with
      | same => rfl
      | list perm inStep =>
          rw [List.forall₂_eq_eq_eq] at inStep
          subst inStep
          exact (perm.filterMap _).mem_iff

/-- The records of a reordered manifest are those of the manifest in some order, each
with its children in some order. -/
theorem IsReordered.records {left right : Value} (reordered : IsReordered left right)
    {name : String} (isList : name ∈ ["classes", "files"]) :
    ∃ middle, (recordsUnder name left).Perm middle ∧
      List.Forall₂ SameButOrder middle (recordsUnder name right) := by
  cases reordered with
  | @record fields others _ listed =>
      have shuffled := listed name isList
      show ∃ middle, ((Value.field name fields).contents Value.record?).Perm middle ∧
        List.Forall₂ SameButOrder middle ((Value.field name others).contents Value.record?)
      generalize Value.field name fields = list at shuffled ⊢
      generalize Value.field name others = other at shuffled ⊢
      cases shuffled with
      | same =>
          refine ⟨_, .refl _, List.forall₂_same.mpr fun fields _ => ?_⟩
          exact .record (fun _ _ => rfl) fun _ _ => .same
      | list perm inStep =>
          refine ⟨_, perm.filterMap _, List.rel_filterMap (R := IsReorderedRecord) ?_ inStep⟩
          rintro _ _ ⟨others, listed⟩
          exact .some (.record others listed)

end Records

end DocAtlas.Manifest
