import DocAtlas.Manifest.Record

/-!
# Well-typed manifests

A manifest is well typed when it is a record in which every field that is read is
absent, null or of its type. Nothing else is asked of it: names may be empty or
repeated, references may lead nowhere, and parent links may loop.
-/

namespace DocAtlas

namespace Value

/-- Whether a value is a truth value. -/
def isTruth : Value → Bool
  | bool _ => true
  | _ => false

/-- Whether a value is a list whose items are of a type. -/
def isListOf (type : Value → Bool) : Value → Bool
  | list items => items.all type
  | _ => false

/-- Whether a value is a record with fields of some kind. -/
def isRecordOf (kind : List (String × Value) → Bool) : Value → Bool
  | record fields => kind fields
  | _ => false

/-- The content of a text. -/
def text? : Value → Option String
  | text content => some content
  | _ => none

/-- The fields of a record. -/
def record? : Value → Option (List (String × Value))
  | record fields => some fields
  | _ => none

/-- What the items of a list hold, as far as they are of one shape. -/
def contents {Content : Type} (content? : Value → Option Content) : Value → List Content
  | list items => items.filterMap content?
  | _ => []

end Value

namespace Manifest

/-- Whether a field is absent, null or of a type. -/
def fits (type : Value → Bool) (fields : Fields) (name : String) : Bool :=
  match Value.field name fields with
  | .null => true
  | value => type value

/-- Whether the fields of a method record are of their types. -/
def isMethodTyped (fields : Fields) : Bool :=
  ["name", "summary", "anchor_url"].all (fits Value.isText fields)

/-- Whether the fields of a class record are of their types. -/
def isClassTyped (fields : Fields) : Bool :=
  ["name", "full_name", "kind", "parent", "path", "superclass"].all (fits Value.isText fields) &&
    fits Value.isTruth fields "documents_self" &&
    fits (Value.isListOf Value.isText) fields "children" &&
    fits (Value.isListOf (Value.isRecordOf isMethodTyped)) fields "methods"

/-- Whether the fields of a file record are of their types. -/
def isFileTyped (fields : Fields) : Bool :=
  ["name", "full_name", "path", "relative_name"].all (fits Value.isText fields) &&
    fits Value.isTruth fields "documents_self"

/-- Whether a manifest is well typed. -/
def isWellTyped : Value → Bool :=
  Value.isRecordOf fun fields =>
    fits (Value.isListOf (Value.isRecordOf isClassTyped)) fields "classes" &&
      fits (Value.isListOf (Value.isRecordOf isFileTyped)) fields "files"

/-- The records that a manifest lists under a name. -/
def recordsUnder (name : String) : Value → List Fields
  | .record fields => (Value.field name fields).contents Value.record?
  | _ => []

/-- A field that fits a text is missing or one. -/
theorem fits_text {fields : Fields} {name : String} (typed : fits Value.isText fields name = true) :
    Value.field name fields = .null ∨ ∃ text, Value.field name fields = .text text := by
  unfold fits at typed
  cases found : Value.field name fields <;> simp_all [Value.isText]

/-- The text that a record gives for a field; an empty text gives nothing. -/
def givenText? (name : String) (fields : Fields) : Option String :=
  match Value.field name fields with
  | .text content => if content = "" then none else some content
  | _ => none

/-- A typed field gives no text, or a text that is not empty. -/
theorem givenText?_cases {fields : Fields} {name : String}
    (typed : fits Value.isText fields name = true) :
    ((Value.field name fields).isGiven = false ∧ givenText? name fields = none) ∨
      ∃ content, Value.field name fields = .text content ∧
        (Value.field name fields).isGiven = true ∧ givenText? name fields = some content := by
  unfold givenText?
  rcases fits_text typed with absent | ⟨content, found⟩
  · rw [absent]
    exact .inl ⟨rfl, rfl⟩
  · rw [found]
    by_cases isEmpty : content = ""
    · exact .inl ⟨by simp [Value.isGiven, isEmpty], if_pos isEmpty⟩
    · exact .inr ⟨content, rfl, by simp [Value.isGiven, isEmpty], if_neg isEmpty⟩

/-- A text that is given is not empty. -/
theorem givenText?_ne_empty {fields : Fields} {name content : String}
    (isGiven : givenText? name fields = some content) : content ≠ "" := by
  unfold givenText? at isGiven
  split at isGiven
  · rintro rfl
    simp_all
  · simp at isGiven

/-- A field that fits a list is missing or a list whose items fit. -/
theorem fits_list {fields : Fields} {name : String} {type : Value → Bool}
    (typed : fits (Value.isListOf type) fields name = true) :
    Value.field name fields = .null ∨
      ∃ items, Value.field name fields = .list items ∧ ∀ item ∈ items, type item = true := by
  unfold fits at typed
  cases found : Value.field name fields <;> simp_all [Value.isListOf]

section Contents

variable {Content : Type} {type : Value → Bool} {content? : Value → Option Content}
  {whole : Content → Value} {holds : Content → Prop}
  (shaped : ∀ item, type item = true →
    ∃ content, content? item = some content ∧ item = whole content ∧ holds content)
include shaped

/-- Items of one shape are listed as they stand. -/
theorem items_eq_contents {items : List Value} (typed : ∀ item ∈ items, type item = true) :
    items = ((Value.list items).contents content?).map whole ∧
      ∀ content ∈ (Value.list items).contents content?, holds content := by
  unfold Value.contents
  induction items with
  | nil => simp
  | cons item rest inductionHypothesis =>
      rw [List.forall_mem_cons] at typed
      obtain ⟨same, hold⟩ := inductionHypothesis typed.2
      obtain ⟨content, found, isWhole, holdsHere⟩ := shaped item typed.1
      dsimp only at same hold ⊢
      rw [List.filterMap_cons_some found, List.map_cons, ← same, ← isWhole, List.forall_mem_cons]
      exact ⟨rfl, holdsHere, hold⟩

/-- A field that lists items of one shape, or nothing, is read as these items. -/
theorem listedOf_contents {fields : Fields} {name : String}
    (typed : fits (Value.isListOf type) fields name = true) :
    listedOf (Value.field name fields) =
        .ok (((Value.field name fields).contents content?).map whole) ∧
      ∀ content ∈ (Value.field name fields).contents content?, holds content := by
  rcases fits_list typed with absent | ⟨items, found, areTyped⟩
  · rw [absent]
    exact ⟨rfl, by simp [Value.contents]⟩
  · rw [found]
    obtain ⟨same, hold⟩ := items_eq_contents shaped areTyped
    refine ⟨?_, hold⟩
    rw [← same]
    cases items with
    | nil => rfl
    | cons item rest => rfl

end Contents

/-- A field that lists records of some kind is read as these records. -/
theorem listedOf_records {fields : Fields} {name : String} {kind : Fields → Bool}
    (typed : fits (Value.isListOf (Value.isRecordOf kind)) fields name = true) :
    listedOf (Value.field name fields) =
        .ok (((Value.field name fields).contents Value.record?).map Value.record) ∧
      ∀ record ∈ (Value.field name fields).contents Value.record?, kind record = true := by
  refine listedOf_contents (fun item typed => ?_) typed
  cases item with
  | record fields => exact ⟨fields, rfl, rfl, typed⟩
  | _ => exact absurd typed (by simp [Value.isRecordOf])

/-- A field that lists texts is read as these texts. -/
theorem listedOf_texts {fields : Fields} {name : String}
    (typed : fits (Value.isListOf Value.isText) fields name = true) :
    listedOf (Value.field name fields) =
      .ok (((Value.field name fields).contents Value.text?).map Value.text) := by
  refine (@listedOf_contents _ _ _ _ (fun _ => True) (fun item typed => ?_) _ _ typed).1
  cases item with
  | text content => exact ⟨content, rfl, rfl, trivial⟩
  | _ => exact absurd typed (by simp [Value.isText])

end Manifest

end DocAtlas
