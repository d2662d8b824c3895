import DocAtlas.Proofs.Manifest.Consistency

/-!
# Refusals

A well-typed manifest that is not loaded is refused for a fault of its entities. The stages
of loading are taken one by one: each fails by such a fault or not at all, however many
defaults stand between them, so no value of a wrong shape comes to light on the way.
-/

namespace DocAtlas

namespace Checked

/-- Every failure of a computation is a fault of the entities. -/
def BlamesEntities {α : Type} (computation : Checked α) : Prop :=
  ∀ failure, computation = .error failure →
    ∃ cause, failure = .fault cause ∧ cause.family = .entity

namespace BlamesEntities

/-- What succeeds blames nothing. -/
theorem ok {α : Type} (value : α) : BlamesEntities (.ok value) :=
  fun _ fails => nomatch fails

/-- A fault of the entity family blames entities. -/
theorem refuse {α : Type} {cause : Fault} (blames : cause.family = .entity) :
    BlamesEntities (DocAtlas.refuse cause : Checked α) :=
  fun _ fails => ⟨cause, (Except.error.inj fails).symm, blames⟩

/-- Steps in sequence blame entities when each of them does. -/
theorem bind {α β : Type} {first : Checked α} {next : α → Checked β}
    (firstBlames : BlamesEntities first)
    (nextBlames : ∀ value, first = .ok value → BlamesEntities (next value)) :
    BlamesEntities (first >>= next) :=
  FailsWithin.bind firstBlames nextBlames

/-- Steps over the items of a list blame entities when each of them does. -/
theorem mapM {α β : Type} {step : α → Checked β} {items : List α}
    (stepBlames : ∀ item ∈ items, BlamesEntities (step item)) :
    BlamesEntities (items.mapM step) :=
  FailsWithin.mapM stepBlames

end BlamesEntities

end Checked

open Checked

namespace Manifest

/-- Reading a required text blames entities. -/
theorem requiredText_blames (name : String) (fields : Fields) :
    BlamesEntities (requiredText name fields) := by
  unfold requiredText
  dsimp only
  split
  · exact .ok _
  · exact .refuse rfl

/-- A kind that is a text or absent is no misfit, whatever it names. -/
theorem kindOf_blames {fields : Fields} (typed : fits Value.isText fields "kind" = true)
    (fullName : String) : BlamesEntities (kindOf fullName fields) := by
  have isKey : ∀ value, (Value.lookup "kind" fields).getD (.text Kind.classDef.word) = value →
      value = .null ∨ ∃ word, value = .text word := by
    rintro _ rfl
    rcases fits_text typed with absent | ⟨word, found⟩
    · unfold Value.field at absent
      cases present : Value.lookup "kind" fields with
      | none => exact .inr ⟨_, rfl⟩
      | some value =>
          rw [present] at absent
          exact .inl absent
    · unfold Value.field at found
      cases present : Value.lookup "kind" fields with
      | none => exact .inr ⟨_, rfl⟩
      | some value =>
          rw [present] at found
          exact .inr ⟨word, found⟩
  unfold kindOf
  rcases isKey _ rfl with given | ⟨word, given⟩
  · rw [given]
    exact .refuse rfl
  · rw [given]
    dsimp only
    split
    · exact .ok _
    · exact .refuse rfl

/-- Reading a method blames entities. -/
theorem methodOf_blames (fields : Fields) : BlamesEntities (methodOf (.record fields)) := by
  unfold methodOf
  refine (BlamesEntities.ok fields).bind fun _ _ => ?_
  exact (requiredText_blames _ _).bind fun _ _ => .ok _

/-- Reading a typed class record blames entities. -/
theorem classOf_blames {fields : Fields} (typed : isClassTyped fields = true) :
    BlamesEntities (classOf (.record fields)) := by
  unfold classOf
  refine (BlamesEntities.ok fields).bind fun read isRead => ?_
  obtain rfl : fields = read := Except.ok.inj isRead
  refine (requiredText_blames _ _).bind fun fullName _ => ?_
  refine (kindOf_blames (isClassTyped_text typed (by simp)) fullName).bind fun kind _ => ?_
  rw [(listedOf_methods typed).1]
  refine (BlamesEntities.ok _).bind fun records isListed => ?_
  obtain rfl := Except.ok.inj isListed
  refine BlamesEntities.bind (.mapM fun record isRecord => ?_) fun _ _ => .ok _
  obtain ⟨method, -, rfl⟩ := List.mem_map.mp isRecord
  exact methodOf_blames method

/-- Reading a file record blames entities. -/
theorem fileOf_blames (fields : Fields) : BlamesEntities (fileOf (.record fields)) := by
  unfold fileOf
  refine (BlamesEntities.ok fields).bind fun _ _ => ?_
  exact (requiredText_blames _ _).bind fun _ _ => .ok _

/-- Reading a well-typed manifest blames entities. -/
theorem draftOf_blames {manifest : Value} (typed : isWellTyped manifest = true) :
    BlamesEntities (draftOf manifest) := by
  have classesTyped := isClassTyped_of_mem typed
  cases manifest with
  | record fields =>
      have typed : (_ && _) = true := typed
      obtain ⟨classRecords, fileRecords⟩ := Bool.and_eq_true_iff.mp typed
      unfold draftOf
      simp only [(listedOf_records classRecords).1, (listedOf_records fileRecords).1,
        Checked.ok_bind, mapM_fieldsOf]
      refine BlamesEntities.bind (.mapM fun record isRecord => ?_) fun classes _ => ?_
      · obtain ⟨fields, isClass, rfl⟩ := List.mem_map.mp isRecord
        exact classOf_blames (classesTyped fields isClass)
      · refine BlamesEntities.bind (.mapM fun record isRecord => ?_) fun files _ => .ok _
        obtain ⟨fields, -, rfl⟩ := List.mem_map.mp isRecord
        exact fileOf_blames fields
  | _ => exact absurd typed (by simp [isWellTyped, Value.isRecordOf])

end Manifest

namespace Graph

/-- Checking the names of an entity blames entities. -/
theorem checkNames_blames (graph : Graph) (id : EntityId) :
    BlamesEntities (graph.checkNames id) := by
  unfold checkNames
  dsimp only
  split
  · exact .refuse rfl
  · split
    · exact .refuse rfl
    · exact .ok ()

/-- Checking a class blames entities. -/
theorem checkClass_blames (graph : Graph) (id : EntityId) :
    BlamesEntities (graph.checkClass id) := by
  unfold checkClass
  refine (graph.checkNames_blames id).bind fun _ _ => ?_
  split
  · exact .ok ()
  · exact .refuse rfl

/-- Checking a file blames entities. -/
theorem checkFile_blames (graph : Graph) (id : EntityId) :
    BlamesEntities (graph.checkFile id) := by
  unfold checkFile
  refine (graph.checkNames_blames id).bind fun _ _ => ?_
  dsimp only
  split
  · exact .refuse rfl
  · split
    · exact .refuse rfl
    · exact .ok ()

/-- Checking that names are distinct blames entities. -/
theorem checkDistinct_blames {graph : Graph} {check : EntityId → Checked Unit}
    (checkBlames : ∀ id, BlamesEntities (check id)) (ids : List EntityId) (seen : List String) :
    BlamesEntities (graph.checkDistinct check ids seen) := by
  induction ids generalizing seen with
  | nil => exact .ok seen
  | cons id rest inductionHypothesis =>
      unfold checkDistinct
      refine (checkBlames id).bind fun _ _ => ?_
      split
      · exact .refuse rfl
      · exact inductionHypothesis _

end Graph

/-- Validating a collection blames entities. -/
theorem Collection.validate_blames (collection : Collection) :
    BlamesEntities collection.validate := by
  unfold validate
  refine (Graph.checkDistinct_blames (Graph.checkClass_blames _) _ _).bind fun seen _ => ?_
  exact (Graph.checkDistinct_blames (Graph.checkFile_blames _) _ _).bind fun _ _ => .ok ()

namespace Manifest

/-- A name is refused when it finds nothing, for the entity that refers to it. -/
theorem resolve_text_eq_error_iff {names : Collection} {owner : EntityId} {name : String}
    {failure : Failure} :
    resolve names owner (.text name) = .error failure ↔
      names.find? name = none ∧
        failure = .fault (.unresolved (names.graph.fullName owner) (.text name)) := by
  unfold resolve
  dsimp only
  cases names.find? name <;> simp [refuse, eq_comm]

/-- Resolving a reference by name blames entities. -/
theorem resolve_text_blames (names : Collection) (owner : EntityId) (name : String) :
    BlamesEntities (resolve names owner (.text name)) := by
  intro failure fails
  obtain ⟨-, rfl⟩ := resolve_text_eq_error_iff.mp fails
  exact ⟨_, rfl, rfl⟩

/-- Linking the parents of typed records blames entities. -/
theorem linkParents_blames {names : Collection} {records : List Placed}
    (typed : ∀ placed ∈ records, isClassTyped placed.1 = true) (graph : Graph) :
    BlamesEntities (linkParents names records graph) := by
  induction records generalizing graph with
  | nil => exact .ok graph
  | cons placed rest inductionHypothesis =>
      rw [List.forall_mem_cons] at typed
      unfold linkParents
      dsimp only
      rcases parent_cases typed.1 with ⟨notGiven, -⟩ | ⟨name, isText, given, -⟩
      · rw [if_neg (by simp [notGiven])]
        exact inductionHypothesis typed.2 graph
      · rw [if_pos given, isText]
        exact (resolve_text_blames _ _ _).bind fun _ _ => inductionHypothesis typed.2 _

/-- Checking for cycles of parents blames entities. -/
theorem checkAncestry_blames (graph : Graph) (ids : List EntityId) :
    BlamesEntities (checkAncestry graph ids) := by
  intro failure fails
  obtain ⟨_, _, _, _, -, -, -, rfl⟩ := checkAncestry_eq_error fails
  exact ⟨_, rfl, rfl⟩

/-- Members cannot be added to a container when one of their names finds nothing. -/
theorem addAliases_eq_error {names : Collection} {owner : EntityId} {members : List String}
    {graph : Graph} {failure : Failure}
    (fails : addAliases names owner (members.map Value.text) graph = .error failure) :
    ∃ name ∈ members, names.find? name = none ∧
      failure = .fault (.unresolved (names.graph.fullName owner) (.text name)) := by
  induction members generalizing graph with
  | nil => cases fails
  | cons name rest inductionHypothesis =>
      rcases Checked.bind_eq_error.mp fails with unresolved | ⟨child, -, furtherFails⟩
      · exact ⟨name, List.mem_cons_self, resolve_text_eq_error_iff.mp unresolved⟩
      · obtain ⟨other, isRest, isFault⟩ := inductionHypothesis furtherFails
        exact ⟨other, List.mem_cons_of_mem _ isRest, isFault⟩

/-- The lists of typed records fail for a listed name that finds nothing only. -/
theorem linkAliases_eq_error {names : Collection} {records : List Placed}
    (typed : ∀ placed ∈ records, isClassTyped placed.1 = true) {graph : Graph} {failure : Failure}
    (fails : linkAliases names records graph = .error failure) :
    ∃ placed ∈ records, ∃ name ∈ childNames placed.1, names.find? name = none ∧
      failure = .fault (.unresolved (names.graph.fullName placed.2) (.text name)) := by
  induction records generalizing graph with
  | nil => cases fails
  | cons placed rest inductionHypothesis =>
      rw [List.forall_mem_cons] at typed
      unfold linkAliases at fails
      rw [listedOf_children typed.1, Checked.ok_bind] at fails
      rcases Checked.bind_eq_error.mp fails with here | ⟨linked, -, furtherFails⟩
      · exact ⟨placed, List.mem_cons_self, addAliases_eq_error here⟩
      · obtain ⟨other, isRest, isFault⟩ := inductionHypothesis typed.2 furtherFails
        exact ⟨other, List.mem_cons_of_mem _ isRest, isFault⟩

/-- Linking the children of typed records blames entities. -/
theorem linkAliases_blames {names : Collection} {records : List Placed}
    (typed : ∀ placed ∈ records, isClassTyped placed.1 = true) (graph : Graph) :
    BlamesEntities (linkAliases names records graph) := by
  intro failure fails
  obtain ⟨_, -, _, -, -, rfl⟩ := linkAliases_eq_error typed fails
  exact ⟨_, rfl, rfl⟩

/-- The links of typed records fail for a name that finds nothing or a cycle of parents
only. -/
theorem Draft.link_blames {draft : Draft}
    (typed : ∀ placed ∈ draft.records, isClassTyped placed.1 = true) :
    BlamesEntities draft.link := by
  unfold Draft.link
  refine (linkParents_blames typed _).bind fun parented _ => ?_
  refine (checkAncestry_blames _ _).bind fun _ _ => ?_
  exact (linkAliases_blames typed _).bind fun _ _ => .ok _

/-- A well-typed manifest is loaded or refused for a fault of its entities. -/
theorem load_blames {manifest : Value} (typed : isWellTyped manifest = true) :
    BlamesEntities (load manifest) := by
  unfold load
  refine (draftOf_blames typed).bind fun draft drafted => ?_
  refine draft.collection.validate_blames.bind fun _ _ => Draft.link_blames ?_
  obtain ⟨classes, files, -, rfl⟩ := (draftOf_eq_ok_iff typed).mp drafted
  exact fun placed isPlaced => isClassTyped_of_mem typed placed.1 (List.of_mem_zip isPlaced).1

end Manifest

end DocAtlas
