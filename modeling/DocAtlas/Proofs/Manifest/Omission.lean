import DocAtlas.Proofs.Manifest.Consistency
import DocAtlas.Proofs.Manifest.Drafting

/-!
# Manifests with records left out

This module takes the class records of some full names out of a manifest, and the references
to these names out of the `children` lists of the class records that remain. It says what is
left: the types of all fields, the entities read from the remaining records, and the links
between what remains, by name.
-/

namespace DocAtlas

namespace Value

/-- Changes what the fields of one name hold. -/
def mapField (name : String) (change : Value → Value) (fields : List (String × Value)) :
    List (String × Value) :=
  fields.map fun entry => if entry.1 == name then (entry.1, change entry.2) else entry

/-- Changes the items of a list or leaves them out; any other value is left as it is. -/
def filterMapItems (change? : Value → Option Value) : Value → Value
  | list items => list (items.filterMap change?)
  | other => other

/-- A changed field is found changed, and every other field as it was. -/
theorem lookup_mapField (name other : String) (change : Value → Value)
    (fields : List (String × Value)) :
    lookup other (mapField name change fields) =
      if other = name then (lookup other fields).map change else lookup other fields := by
  have sameNames : ((fun field : String × Value => field.1 == other) ∘ fun entry =>
      if entry.1 == name then (entry.1, change entry.2) else entry) =
        fun field => field.1 == other := by
    funext entry
    by_cases changed : entry.1 = name <;> simp [changed]
  unfold lookup mapField
  rw [List.find?_map, sameNames]
  cases found : fields.find? fun field => field.1 == other with
  | none => simp
  | some entry =>
      have isName : entry.1 = other := by simpa using List.find?_some found
      by_cases same : other = name <;> simp [isName, same]

/-- A field that is changed has the changed value. -/
theorem field_mapField {name : String} {change : Value → Value} (keepsNull : change null = null)
    (fields : List (String × Value)) :
    field name (mapField name change fields) = change (field name fields) := by
  unfold field
  rw [lookup_mapField, if_pos rfl]
  cases lookup name fields with
  | none => exact keepsNull.symm
  | some value => rfl

/-- Changing one field changes no other. -/
theorem field_mapField_of_ne {name other : String} (differs : other ≠ name)
    (change : Value → Value) (fields : List (String × Value)) :
    field other (mapField name change fields) = field other fields := by
  unfold field
  rw [lookup_mapField, if_neg differs]

/-- Where items are left out or changed, so are their contents. -/
theorem contents_filterMapItems {Content : Type} {content? : Value → Option Content}
    {change? : Value → Option Value} {keep : Content → Bool} {change : Content → Content}
    (itemwise : ∀ item,
      (change? item).bind content? = ((content? item).filter keep).map change) (value : Value) :
    (filterMapItems change? value).contents content? =
      ((value.contents content?).filter keep).map change := by
  cases value with
  | list items =>
      unfold filterMapItems contents
      dsimp only
      rw [List.filterMap_filterMap, List.filter_filterMap, List.map_filterMap]
      exact congrArg (List.filterMap · items) (funext itemwise)
  | _ => rfl

end Value

namespace Manifest

/-- Whether the full name that a class record gives is none of some names. -/
def isOutside (names : List String) (fields : Fields) : Bool :=
  (givenText? "full_name" fields).all fun name => !names.contains name

/-- A reference, unless it is to one of some names. -/
def referenceOutside? (names : List String) : Value → Option Value
  | .text name => if names.contains name then none else some (.text name)
  | other => some other

/-- A class record without the references to some names among its children. -/
def withoutReferences (names : List String) (fields : Fields) : Fields :=
  Value.mapField "children" (Value.filterMapItems (referenceOutside? names)) fields

/-- A class record without the references to some names, unless its own is among them. -/
def classOutside? (names : List String) : Value → Option Value
  | .record fields =>
    if isOutside names fields then some (.record (withoutReferences names fields)) else none
  | other => some other

/-- A manifest without the class records of some full names, and without the references to
these names among the children of the others. -/
def without (names : List String) : Value → Value
  | .record fields =>
    .record (Value.mapField "classes" (Value.filterMapItems (classOutside? names)) fields)
  | other => other

section Records

variable (names : List String)

/-- A record without references to some names lists the other names. -/
theorem childNames_withoutReferences (fields : Fields) :
    childNames (withoutReferences names fields) =
      (childNames fields).filter fun name => !names.contains name := by
  unfold childNames withoutReferences
  rw [Value.field_mapField rfl,
    @Value.contents_filterMapItems _ _ _ (fun name => !names.contains name) id, List.map_id]
  intro item
  cases item with
  | text name =>
      unfold referenceOutside? Value.text?
      by_cases isName : name ∈ names <;> simp [isName, Option.filter_some]
  | _ => rfl

/-- Taking references out of the children looks up the same in every other field. -/
theorem lookup_withoutReferences (fields : Fields) {name : String} (isOther : name ≠ "children") :
    Value.lookup name (withoutReferences names fields) = Value.lookup name fields := by
  unfold withoutReferences
  rw [Value.lookup_mapField, if_neg isOther]

/-- Taking references out of the children leaves the texts of every other field. -/
theorem givenText?_withoutReferences (fields : Fields) {name : String}
    (isOther : name ≠ "children") :
    givenText? name (withoutReferences names fields) = givenText? name fields := by
  unfold givenText? Value.field
  rw [lookup_withoutReferences names fields isOther]

/-- The class records that remain are those of other names, without the references. -/
theorem classes_without (manifest : Value) :
    recordsUnder "classes" (without names manifest) =
      ((recordsUnder "classes" manifest).filter (isOutside names)).map
        (withoutReferences names) := by
  cases manifest with
  | record fields =>
      unfold without recordsUnder
      dsimp only
      rw [Value.field_mapField rfl, Value.contents_filterMapItems]
      intro item
      cases item with
      | record fields =>
          unfold classOutside? Value.record?
          cases outside : isOutside names fields <;> simp [outside, Option.filter_some]
      | _ => rfl
  | _ => rfl

/-- The files of a manifest stay when classes are left out. -/
theorem files_without (manifest : Value) :
    recordsUnder "files" (without names manifest) = recordsUnder "files" manifest := by
  cases manifest with
  | record fields =>
      unfold without recordsUnder
      dsimp only
      rw [Value.field_mapField_of_ne (by decide)]
  | _ => rfl

/-- A record that gives its full name remains when the name is none of those left out. -/
theorem isOutside_iff {fields : Fields} {name : String}
    (isFullName : givenText? "full_name" fields = some name) :
    isOutside names fields = true ↔ name ∉ names := by
  unfold isOutside
  rw [isFullName, Option.all_some, Bool.not_eq_true', List.contains_eq_mem, decide_eq_false_iff_not]

/-- A record of a certain name is left exactly when there is one and the name is not left out;
what is asked of it is asked of it without its references. -/
theorem exists_class_without_iff {manifest : Value} {name : String} {holds : Fields → Prop} :
    (∃ fields ∈ recordsUnder "classes" (without names manifest),
        givenText? "full_name" fields = some name ∧ holds fields) ↔
      (∃ fields ∈ recordsUnder "classes" manifest,
        givenText? "full_name" fields = some name ∧ holds (withoutReferences names fields)) ∧
        name ∉ names := by
  rw [classes_without]
  constructor
  · rintro ⟨_, isRecord, isFullName, holdsLeft⟩
    obtain ⟨fields, isThere, rfl⟩ := List.mem_map.mp isRecord
    obtain ⟨isThere, outside⟩ := List.mem_filter.mp isThere
    rw [givenText?_withoutReferences names fields (by decide)] at isFullName
    exact ⟨⟨fields, isThere, isFullName, holdsLeft⟩, (isOutside_iff names isFullName).mp outside⟩
  · rintro ⟨⟨fields, isThere, isFullName, holdsLeft⟩, isKept⟩
    have outside := (isOutside_iff names isFullName).mpr isKept
    rw [← givenText?_withoutReferences names fields (by decide)] at isFullName
    exact ⟨_, List.mem_map_of_mem (List.mem_filter.mpr ⟨isThere, outside⟩), isFullName, holdsLeft⟩

/-- Without some names, the others keep their parents. -/
theorem namesParent_without_iff {manifest : Value} {child parent : String} :
    NamesParent (without names manifest) child parent ↔
      NamesParent manifest child parent ∧ child ∉ names := by
  unfold NamesParent
  rw [exists_class_without_iff]
  simp only [givenText?_withoutReferences names _ (show "parent" ≠ "children" by decide)]

/-- Without some names, the others keep each other as children. -/
theorem listsChild_without_iff {manifest : Value} {container member : String} :
    ListsChild (without names manifest) container member ↔
      ListsChild manifest container member ∧ container ∉ names ∧ member ∉ names := by
  unfold ListsChild
  rw [exists_class_without_iff]
  simp only [childNames_withoutReferences, List.mem_filter, Bool.not_eq_true',
    List.contains_eq_mem, decide_eq_false_iff_not]
  constructor
  · rintro ⟨⟨fields, isThere, isFullName, isChild, isMemberKept⟩, isKept⟩
    exact ⟨⟨fields, isThere, isFullName, isChild⟩, isKept, isMemberKept⟩
  · rintro ⟨⟨fields, isThere, isFullName, isChild⟩, isKept, isMemberKept⟩
    exact ⟨⟨fields, isThere, isFullName, isChild, isMemberKept⟩, isKept⟩

end Records

section Types

/-- Items that keep their type when they are changed make a list of that type. -/
theorem fits_filterMapItems {type : Value → Bool} {change? : Value → Option Value}
    (keeps : ∀ item changed, change? item = some changed → type item = true →
      type changed = true) {fields : Fields} {name : String}
    (typed : fits (Value.isListOf type) fields name = true) :
    fits (Value.isListOf type) (Value.mapField name (Value.filterMapItems change?) fields) name =
      true := by
  unfold fits
  rw [Value.field_mapField rfl]
  rcases fits_list typed with absent | ⟨items, found, areTyped⟩
  · rw [absent]
    rfl
  · rw [found]
    show (items.filterMap change?).all type = true
    rw [List.all_eq_true]
    intro changed isChanged
    obtain ⟨item, isItem, change⟩ := List.mem_filterMap.mp isChanged
    exact keeps item changed change (areTyped item isItem)

variable (names : List String)

/-- A typed record without references to some names is typed. -/
theorem isClassTyped_withoutReferences {fields : Fields} (typed : isClassTyped fields = true) :
    isClassTyped (withoutReferences names fields) = true := by
  refine isClassTyped_congr (fun name isOther =>
    (lookup_withoutReferences names fields isOther).symm) (fits_filterMapItems ?_) typed
  intro item changed change isText
  cases item with
  | text name =>
      unfold referenceOutside? at change
      dsimp only at change
      split at change
      · exact absurd change nofun
      · rw [← Option.some.inj change]
        rfl
  | _ => exact absurd isText nofun

/-- Leaving records out keeps a manifest well typed. -/
theorem isWellTyped_without {manifest : Value} (typed : isWellTyped manifest = true) :
    isWellTyped (without names manifest) = true := by
  cases manifest with
  | record fields =>
      obtain ⟨classesTyped, filesTyped⟩ := Bool.and_eq_true_iff.mp typed
      refine Bool.and_eq_true_iff.mpr ⟨fits_filterMapItems ?_ classesTyped, ?_⟩
      · intro item changed change isTyped
        cases item with
        | record fields =>
            unfold classOutside? at change
            dsimp only at change
            split at change
            · rw [← Option.some.inj change]
              exact isClassTyped_withoutReferences names isTyped
            · exact absurd change nofun
        | _ => exact absurd isTyped nofun
      · unfold fits at filesTyped ⊢
        rw [Value.field_mapField_of_ne (by decide)]
        exact filesTyped
  | _ => exact typed

end Types

/-- From the records that remain the same entities are read. -/
theorem IsReading.without {manifest : Value} (typed : isWellTyped manifest = true)
    (names : List String) {classes files : List Entity}
    (reading : IsReading manifest classes files) :
    IsReading (without names manifest)
      (classes.filter fun entity => !names.contains entity.fullName) files where
  classes := by
    rw [classes_without, List.forall₂_map_left_iff]
    refine (Pairing.filter reading.classes fun fields entity isRecord read => ?_).imp
      fun fields entity read => ?_
    · unfold isOutside
      rw [(names_of_classOf (isClassTyped_of_mem typed fields isRecord) read).1, Option.all_some]
    · rw [← read]
      exact classOf_congr fun name isOther => lookup_withoutReferences names fields isOther
  files := by
    rw [files_without]
    exact reading.files

end Manifest

end DocAtlas
