import DocAtlas.Collection
import DocAtlas.Proofs.Checked
import Mathlib.Data.List.Nodup

/-!
# Validation

This module says which collections pass the check of what an extractor promises. The
order of the two lists has no part in it: whatever is found first when an entity
fails, the same collections are accepted in every order.
-/

namespace DocAtlas

namespace Graph

/-- An entity has to have a full name and a name. -/
theorem checkNames_eq_ok_iff {graph : Graph} {id : EntityId} :
    graph.checkNames id = .ok () ↔
      graph.fullName id ≠ "" ∧ (graph.entity id).name.isGiven = true := by
  unfold checkNames fullName
  by_cases unnamed : (graph.entity id).fullName = ""
  · simp [unnamed, refuse]
  · cases given : (graph.entity id).name.isGiven <;> simp [unnamed, given, refuse]

/-- A class or module has to be one. -/
theorem checkClass_eq_ok_iff {graph : Graph} {id : EntityId} :
    graph.checkClass id = .ok () ↔
      graph.fullName id ≠ "" ∧ (graph.entity id).name.isGiven = true ∧
        graph.isNamespace id = true := by
  unfold checkClass
  rw [Checked.check_bind_eq_ok, checkNames_eq_ok_iff, and_assoc]
  cases graph.isNamespace id <;> simp [refuse, pure, Except.pure]

/-- A file has to be one, and to have a relative name. -/
theorem checkFile_eq_ok_iff {graph : Graph} {id : EntityId} :
    graph.checkFile id = .ok () ↔
      graph.fullName id ≠ "" ∧ (graph.entity id).name.isGiven = true ∧
        graph.isNamespace id = false ∧ (graph.entity id).relativeName.isGiven = true := by
  unfold checkFile isNamespace
  rw [Checked.check_bind_eq_ok, checkNames_eq_ok_iff, and_assoc]
  cases kind : (graph.entity id).kind <;>
    cases given : (graph.entity id).relativeName.isGiven <;>
    simp [kind, given, refuse, pure, Except.pure, Kind.isNamespace]

/-- Entities are accepted when each passes its check and brings a full name of its
own. -/
theorem checkDistinct_eq_ok_iff {graph : Graph} {check : EntityId → Checked Unit}
    {ids : List EntityId} {seen after : List String} :
    graph.checkDistinct check ids seen = .ok after ↔
      (∀ id ∈ ids, check id = .ok ()) ∧ (ids.map graph.fullName).Nodup ∧
        (∀ name ∈ ids.map graph.fullName, name ∉ seen) ∧
        after = (ids.map graph.fullName).reverse ++ seen := by
  induction ids generalizing seen with
  | nil =>
      unfold checkDistinct
      simp [pure, Except.pure, eq_comm]
  | cons id rest inductionHypothesis =>
      unfold checkDistinct
      simp only [Checked.check_bind_eq_ok, List.contains_eq_mem, decide_eq_true_eq]
      rw [List.forall_mem_cons, List.map_cons, List.nodup_cons, List.forall_mem_cons]
      by_cases isSeen : graph.fullName id ∈ seen
      · simp [isSeen, refuse]
      · rw [if_neg isSeen, inductionHypothesis, List.reverse_cons, List.append_assoc,
          List.singleton_append]
        constructor
        · rintro ⟨passes, others, nodup, areNew, rfl⟩
          refine ⟨⟨passes, others⟩, ⟨fun isAgain => ?_, nodup⟩, ⟨isSeen, ?_⟩, rfl⟩
          · exact areNew _ isAgain List.mem_cons_self
          · exact fun name isName isOld => areNew name isName (List.mem_cons_of_mem _ isOld)
        · rintro ⟨⟨passes, others⟩, ⟨notAgain, nodup⟩, ⟨-, areNew⟩, rfl⟩
          refine ⟨passes, others, nodup, fun name isName isOld => ?_, rfl⟩
          rcases List.mem_cons.mp isOld with rfl | isOld
          · exact notAgain isName
          · exact areNew name isName isOld

end Graph

namespace Collection

/-- A collection is accepted when every entity passes the check of its list and full
names are unique over both lists. -/
theorem validate_eq_ok_iff {collection : Collection} :
    collection.validate = .ok () ↔
      (∀ id ∈ collection.classes, collection.graph.checkClass id = .ok ()) ∧
        (∀ id ∈ collection.files, collection.graph.checkFile id = .ok ()) ∧
        ((collection.classes ++ collection.files).map collection.graph.fullName).Nodup := by
  unfold validate
  simp only [Checked.bind_eq_ok, Graph.checkDistinct_eq_ok_iff]
  rw [List.map_append, List.nodup_append']
  constructor
  · rintro ⟨seen, ⟨classesPass, classesNodup, -, rfl⟩, after, ⟨filesPass, filesNodup, areNew, -⟩, -⟩
    refine ⟨classesPass, filesPass, classesNodup, filesNodup, ?_⟩
    intro name isClass isFile
    apply areNew name isFile
    rw [List.append_nil, List.mem_reverse]
    exact isClass
  · rintro ⟨classesPass, filesPass, classesNodup, filesNodup, disjoint⟩
    refine ⟨_, ⟨classesPass, classesNodup, fun _ _ => List.not_mem_nil, rfl⟩, _,
      ⟨filesPass, filesNodup, fun name isFile isOld => ?_, rfl⟩, rfl⟩
    rw [List.append_nil, List.mem_reverse] at isOld
    exact disjoint isOld isFile

/-- The order of the two lists does not matter. -/
theorem validate_of_perm {graph : Graph} {classes files sortedClasses sortedFiles : List EntityId}
    (sameClasses : sortedClasses.Perm classes) (sameFiles : sortedFiles.Perm files)
    (accepted : Collection.validate ⟨graph, classes, files⟩ = .ok ()) :
    Collection.validate ⟨graph, sortedClasses, sortedFiles⟩ = .ok () := by
  rw [validate_eq_ok_iff] at accepted ⊢
  obtain ⟨classesPass, filesPass, nodup⟩ := accepted
  refine ⟨fun id isClass => classesPass id (sameClasses.mem_iff.mp isClass),
    fun id isFile => filesPass id (sameFiles.mem_iff.mp isFile), ?_⟩
  exact ((sameClasses.append sameFiles).map graph.fullName).nodup_iff.mpr nodup

/-- Where full names are unique, a name finds the one entity that has it. -/
theorem find?_eq_some_iff {collection : Collection}
    (nodup : ((collection.classes ++ collection.files).map collection.graph.fullName).Nodup)
    {name : String} {id : EntityId} :
    collection.find? name = some id ↔
      id ∈ collection.classes ++ collection.files ∧ collection.graph.fullName id = name := by
  unfold find?
  constructor
  · intro found
    exact ⟨List.mem_of_find?_eq_some found, by simpa using List.find?_some found⟩
  · rintro ⟨isListed, rfl⟩
    cases found : (collection.classes ++ collection.files).find?
        fun other => collection.graph.fullName other == collection.graph.fullName id with
    | none => exact absurd (List.find?_eq_none.mp found id isListed) (by simp)
    | some other =>
        have same : collection.graph.fullName other = collection.graph.fullName id := by
          simpa using List.find?_some found
        rw [List.inj_on_of_nodup_map nodup (List.mem_of_find?_eq_some found) isListed same]

end Collection

end DocAtlas
