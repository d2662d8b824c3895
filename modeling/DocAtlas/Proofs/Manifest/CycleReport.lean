import DocAtlas.Proofs.Manifest.Acceptance
import Mathlib.Data.List.Chain

/-!
# Cycles of parent links

A manifest whose records can be read, whose names are in order and whose parents are found is
refused for a cycle exactly when its parent links have one. This module says which class the
refusal is about and what its chain is. Both are given by name, from the records alone: which
places the entities have, and how the chain was climbed, has no part in it.
-/

namespace DocAtlas.Manifest

/-- The full names that the class records of a manifest give, in record order. -/
def classNames (manifest : Value) : List String :=
  (recordsUnder "classes" manifest).filterMap (givenText? "full_name")

/-- What the report of a cycle says: the chain leads from `start` through `others`, from parent
to parent, back to `start`, with no other repetition, and no class in front of `start` lies on a
cycle. -/
structure IsCycleReport (manifest : Value) (start : String) (others : List String) : Prop where
  first : ∃ before after, classNames manifest = before ++ start :: after ∧
    ∀ name ∈ before, ¬ Relation.TransGen (NamesParent manifest) name name
  onCycle : Relation.TransGen (NamesParent manifest) start start
  climbs : (start :: others).IsChain (NamesParent manifest)
  returns : others.getLast? = some start
  nodup : others.Nodup

/-- A draft that is read and accepted is all that is loaded. -/
theorem load_eq_link {manifest : Value} {draft : Draft} (drafted : draftOf manifest = .ok draft)
    (accepted : draft.collection.validate = .ok ()) : load manifest = draft.link := by
  unfold load
  rw [drafted, Checked.ok_bind, accepted, Checked.ok_bind]

/-- Where parents are found, a cycle is reported by the check of the ancestry only. -/
theorem Draft.link_eq_parentCycle_iff {draft : Draft} {parented : Graph}
    (typed : ∀ placed ∈ draft.records, isClassTyped placed.1 = true)
    (resolved : linkParents draft.collection draft.records draft.collection.graph = .ok parented)
    {start : String} {others : List String} :
    draft.link = .error (.fault (.parentCycle start others)) ↔
      checkAncestry parented draft.collection.classes =
        .error (.fault (.parentCycle start others)) := by
  unfold Draft.link
  dsimp only
  rw [resolved, Checked.ok_bind]
  constructor
  · intro fails
    rcases Checked.bind_eq_error.mp fails with isCycle | ⟨_, -, aliasesFail⟩
    · exact isCycle
    · -- A list that fails names what is not found.
      rcases Checked.bind_eq_error.mp aliasesFail with notFound | ⟨_, -, made⟩
      · obtain ⟨_, -, _, -, -, isFault⟩ := linkAliases_eq_error typed notFound
        cases isFault
      · cases made
  · exact fun isCycle => Checked.bind_eq_error.mpr (.inl isCycle)

section Reading

variable {manifest : Value} (typed : isWellTyped manifest = true) {classes files : List Entity}
  (reading : IsReading manifest classes files)
include typed

/-- The classes of a draft have the names of the class records, in record order. -/
theorem IsReading.map_fullName_classes :
    reading.draft.collection.classes.map reading.draft.collection.graph.fullName =
      classNames manifest := by
  have read := (@map_entity_draftWith classes files (recordsUnder "classes" manifest)).1
  unfold classNames
  rw [Pairing.filterMap_eq_map reading.classes fun fields entity isRecord read =>
    (names_of_classOf (isClassTyped_of_mem typed fields isRecord) read).1]
  conv_rhs => rw [← read, List.map_map]
  rfl

variable (checked : reading.draft.IsChecked) (resolves : reading.draft.ResolvesParents)
include checked resolves

/-- A class is above itself behind the parent links when its name is. -/
theorem IsReading.cycle_parented_iff {id : EntityId}
    (isClass : id ∈ reading.draft.collection.classes) :
    Relation.TransGen reading.draft.parented.HasParent id id ↔
      Relation.TransGen (NamesParent manifest) (reading.draft.collection.graph.fullName id)
        (reading.draft.collection.graph.fullName id) := by
  have same : reading.draft.linked.graph.HasParent = reading.draft.parented.HasParent := by
    ext child parent
    exact Draft.hasParent_linked
  rw [← same, reading.cycle_iff typed checked resolves ((checked.mem_classes id).mp isClass).1]

/-- What the check of the ancestry reports is a cycle of the first class that lies on one. -/
theorem IsReading.isCycleReport {start : String} {others : List String}
    (fails : checkAncestry reading.draft.parented reading.draft.collection.classes =
      .error (.fault (.parentCycle start others))) :
    IsCycleReport manifest start others := by
  have distinct : ∀ left right, left < reading.draft.parented.size →
      right < reading.draft.parented.size →
      reading.draft.parented.fullName left = reading.draft.parented.fullName right →
      left = right := fun _ _ => checked.eq_of_fullName_parented
  obtain ⟨before, id, after, names, split, noneBefore, found, isFault⟩ :=
    checkAncestry_eq_error fails
  cases isFault
  have isListed : ∀ other ∈ before ++ id :: after, other ∈ reading.draft.collection.classes :=
    fun other isOther => split ▸ isOther
  have isClass := isListed id (by simp)
  obtain ⟨cycle, path, chain, isLast, nodup, arePlaces, rfl⟩ :=
    parentCycle?_eq_some distinct (checked.class_lt_parented isClass) found
  have namesParent : ∀ child parent, reading.draft.parented.HasParent child parent →
      NamesParent manifest (reading.draft.parented.fullName child)
        (reading.draft.parented.fullName parent) := by
    intro child parent hasParent
    rw [Draft.fullName_parented, Draft.fullName_parented]
    exact reading.namesParent_of_hasParent typed checked (Draft.hasParent_linked.mpr hasParent)
  constructor
  case first =>
    refine ⟨before.map reading.draft.collection.graph.fullName,
      after.map reading.draft.collection.graph.fullName, ?_, ?_⟩
    · rw [← reading.map_fullName_classes typed, split, List.map_append, List.map_cons,
        Draft.fullName_parented]
    · intro name isName isCycle
      obtain ⟨other, isBefore, rfl⟩ := List.mem_map.mp isName
      have otherClass := isListed other (List.mem_append_left _ isBefore)
      have acyclic := (parentCycle?_eq_none_iff distinct
        (checked.class_lt_parented otherClass)).mp (noneBefore other isBefore)
      exact acyclic ((reading.cycle_parented_iff typed checked resolves otherClass).mpr isCycle)
  case onCycle =>
    rw [Draft.fullName_parented]
    exact (reading.cycle_parented_iff typed checked resolves isClass).mp cycle
  case climbs =>
    rw [← List.map_cons, List.isChain_map]
    exact chain.imp fun child parent => namesParent child parent
  case returns =>
    rw [List.getLast?_map, isLast]
    rfl
  case nodup =>
    exact nodup.map_on fun left isLeft right isRight =>
      distinct left right (arePlaces left isLeft) (arePlaces right isRight)

end Reading

/-- Behind reading, validation and the resolution of parents, a well-typed manifest is refused
for a cycle exactly when some class lies on a cycle of parent links. The refusal is about the
first such class in record order, and its chain is the cycle of that class: a class that hangs
below a cycle is passed over, and so is whatever the `children` lists hold. -/
theorem load_reports_cycle {manifest : Value} (typed : isWellTyped manifest = true) {draft : Draft}
    (drafted : draftOf manifest = .ok draft) (accepted : draft.collection.validate = .ok ())
    {parented : Graph}
    (resolved : linkParents draft.collection draft.records draft.collection.graph = .ok parented) :
    ((∃ start others, load manifest = .error (.fault (.parentCycle start others))) ↔
      ∃ name ∈ classNames manifest, Relation.TransGen (NamesParent manifest) name name) ∧
    ∀ start others, load manifest = .error (.fault (.parentCycle start others)) →
      IsCycleReport manifest start others := by
  obtain ⟨classes, files, reading, rfl⟩ := (draftOf_eq_ok_iff typed).mp drafted
  have checked := reading.isChecked typed accepted
  have reported : ∀ start others, load manifest = .error (.fault (.parentCycle start others)) ↔
      checkAncestry parented reading.draft.collection.classes =
        .error (.fault (.parentCycle start others)) := by
    intro start others
    rw [load_eq_link drafted accepted]
    exact Draft.link_eq_parentCycle_iff checked.typed resolved
  obtain ⟨resolves, rfl⟩ := (linkParents_eq_ok_iff checked.typed).mp resolved
  have isReport : ∀ start others, load manifest = .error (.fault (.parentCycle start others)) →
      IsCycleReport manifest start others := fun start others fails =>
    reading.isCycleReport typed checked resolves ((reported start others).mp fails)
  refine ⟨⟨?_, ?_⟩, isReport⟩
  · rintro ⟨start, others, fails⟩
    have report := isReport start others fails
    obtain ⟨before, after, split, -⟩ := report.first
    exact ⟨start, by simp [split], report.onCycle⟩
  · rintro ⟨name, isName, cycle⟩
    rw [← reading.map_fullName_classes typed] at isName
    obtain ⟨id, isClass, rfl⟩ := List.mem_map.mp isName
    cases answer : checkAncestry reading.draft.parented reading.draft.collection.classes with
    | ok =>
        have acyclic := (checkAncestry_eq_ok_iff (fun _ _ => checked.eq_of_fullName_parented)
          fun _ => checked.class_lt_parented).mp answer
        exact absurd ((reading.cycle_parented_iff typed checked resolves isClass).mpr cycle)
          (acyclic id isClass)
    | error failure =>
        obtain ⟨_, _, _, _, -, -, -, rfl⟩ := checkAncestry_eq_error answer
        exact ⟨_, _, (reported _ _).mpr answer⟩

/-- A manifest with two cycles: that of `A`, `B` and `E`, which `C` hangs below, and that of
`S` alone. `D` stands in a file, and `A` lists a child that is unknown. -/
def entwined : Value :=
  .record
    [("classes", .list
      [.record [("full_name", .text "D"), ("parent", .text "lib/d.rb")],
       .record [("full_name", .text "C"), ("parent", .text "A")],
       .record [("full_name", .text "B"), ("parent", .text "E")],
       .record [("full_name", .text "S"), ("parent", .text "S")],
       .record [("full_name", .text "A"), ("parent", .text "B"),
        ("children", .list [.text "nobody"])],
       .record [("full_name", .text "E"), ("parent", .text "A")]]),
     ("files", .list [.record [("full_name", .text "lib/d.rb")]])]

/-- The first class on a cycle is `B`; `C` is passed over. -/
theorem entwined_reports_cycle :
    isWellTyped entwined = true ∧ ∃ draft parented, draftOf entwined = .ok draft ∧
      draft.collection.validate = .ok () ∧
      linkParents draft.collection draft.records draft.collection.graph = .ok parented ∧
      load entwined = .error (.fault (.parentCycle "B" ["E", "A", "B"])) ∧
      IsCycleReport entwined "B" ["E", "A", "B"] ∧
      ¬ Relation.TransGen (NamesParent entwined) "C" "C" := by
  have typed : isWellTyped entwined = true := by decide
  obtain ⟨draft, parented, drafted, accepted, resolved⟩ : ∃ draft parented,
      draftOf entwined = .ok draft ∧ draft.collection.validate = .ok () ∧
      linkParents draft.collection draft.records draft.collection.graph = .ok parented :=
    ⟨_, _, rfl, rfl, rfl⟩
  have reports : load entwined = .error (.fault (.parentCycle "B" ["E", "A", "B"])) := by rfl
  have report := (load_reports_cycle typed drafted accepted resolved).2 _ _ reports
  refine ⟨typed, draft, parented, drafted, accepted, resolved, reports, report, ?_⟩
  obtain ⟨before, after, split, acyclic⟩ := report.first
  have names : classNames entwined = ["D", "C", "B", "S", "A", "E"] := by decide
  rw [names] at split
  match before with
  | [] => simp at split
  | [_] => simp at split
  | _ :: second :: _ =>
      obtain rfl : "C" = second := by simp_all
      exact acyclic "C" (by simp)

end DocAtlas.Manifest
