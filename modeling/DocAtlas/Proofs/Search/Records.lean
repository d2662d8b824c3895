import DocAtlas.Proofs.Generation.Navigation
import Mathlib.Data.Finset.Sort

/-!
# Records of a search index

The records of an index stand in blocks, one for each full name, in ascending order of the
names. The first entity that is given with a name makes its block: a record of its own when
it is documented, and behind that one for each of its methods. Sorting keeps entities of one
name in the order in which they are given, so the first of them stays first; and an entity
without documentation has no records that could be left out.
-/

namespace DocAtlas

/-- Whether a record is that of a method of an owner. -/
def SearchRecord.isMethodOf (owner : String) : SearchRecord → Bool
  | entity _ _ _ => false
  | method name _ _ _ => name == owner

namespace Graph

/-- The full names of entities, each once, in ascending order. -/
def namesInOrder (graph : Graph) (ids : List EntityId) : List String :=
  (ids.map graph.fullName).toFinset.sort (· ≤ ·)

/-- The first of some entities that has a full name. -/
def firstNamed? (graph : Graph) (ids : List EntityId) (name : String) : Option EntityId :=
  ids.find? fun id => graph.fullName id == name

/-- The record of a method of an entity. -/
def methodRecord (graph : Graph) (id : EntityId) (method : Method) : SearchRecord :=
  .method (graph.fullName id) method.name method.summary method.anchorUrl

/-- The block of a full name: the first entity with the name gives its own record, if it is
documented, and one for each of its methods in their order. -/
def blockNamed (graph : Graph) (ids : List EntityId) (name : String) : List SearchRecord :=
  match graph.firstNamed? ids name with
  | some id =>
    (if (graph.entity id).isDocumented then [graph.ownRecord id] else []) ++
      (graph.entity id).methods.map (graph.methodRecord id)
  | none => []

variable {graph : Graph} {ids : List EntityId} {id : EntityId} {name : String}

/-- The first entity of a name is one of those given and has the name. -/
theorem firstNamed?_eq_some (found : graph.firstNamed? ids name = some id) :
    id ∈ ids ∧ graph.fullName id = name :=
  ⟨List.mem_of_find?_eq_some found, by simpa using List.find?_some found⟩

/-- Every entity that is given has a first one of its name. -/
theorem exists_firstNamed? (isGiven : id ∈ ids) :
    ∃ first, graph.firstNamed? ids (graph.fullName id) = some first := by
  rw [← Option.isSome_iff_exists, firstNamed?, List.find?_isSome]
  exact ⟨id, isGiven, by simp⟩

/-- The block of the first entity with a name is what it gives to an index. -/
theorem blockNamed_of_first (found : graph.firstNamed? ids name = some id) :
    graph.blockNamed ids name = graph.recordsOf id := by
  unfold blockNamed
  rw [found]
  rfl

/-- Sorting by full name keeps entities of one name in their order. -/
theorem filter_byFullName (graph : Graph) (ids : List EntityId) (name : String) :
    ((graph.byFullName ids).filter fun id => graph.fullName id == name) =
      ids.filter fun id => graph.fullName id == name := by
  let hasName (id : EntityId) : Bool := graph.fullName id == name
  have together : (ids.filter hasName).Pairwise fun left right =>
      decide (graph.fullName left ≤ graph.fullName right) := by
    refine List.pairwise_of_forall_mem_list fun left isLeft right isRight => ?_
    have sameName := (List.mem_filter.mp isLeft).2.trans (List.mem_filter.mp isRight).2.symm
    simp_all [hasName]
  have stable : (ids.filter hasName).Sublist (graph.byFullName ids) :=
    List.sublist_mergeSort (by simpa using fun _ _ _ => le_trans)
      (by simpa using fun _ _ => le_total _ _) together List.filter_sublist
  have within := stable.filter hasName
  simp only [List.filter_filter, Bool.and_self] at within
  exact (within.eq_of_length ((graph.byFullName_perm ids).filter hasName).length_eq.symm).symm

/-- The first entity of a name stays the first when all are sorted. -/
theorem firstNamed?_byFullName (graph : Graph) (ids : List EntityId) (name : String) :
    graph.firstNamed? (graph.byFullName ids) name = graph.firstNamed? ids name := by
  unfold firstNamed?
  rw [← List.head?_filter, filter_byFullName, List.head?_filter]

/-- The first entities of each name stand in the order in which they are given. -/
theorem firstOfEachName_sublist (graph : Graph) (ids : List EntityId) (seen : List String) :
    (graph.firstOfEachName ids seen).Sublist ids := by
  induction ids generalizing seen with
  | nil => exact List.Sublist.refl _
  | cons id rest inductionHypothesis =>
      unfold firstOfEachName
      dsimp only
      split
      · exact (inductionHypothesis seen).cons id
      · exact (inductionHypothesis _).cons_cons id

/-- What is kept of each name is the first entity that has it, past the names seen. -/
theorem mem_firstOfEachName {seen : List String} :
    id ∈ graph.firstOfEachName ids seen ↔
      graph.fullName id ∉ seen ∧ graph.firstNamed? ids (graph.fullName id) = some id := by
  induction ids generalizing seen with
  | nil => simp [firstOfEachName, firstNamed?]
  | cons first rest inductionHypothesis =>
      unfold firstOfEachName firstNamed?
      unfold firstNamed? at inductionHypothesis
      simp only [List.contains_eq_mem, decide_eq_true_eq, List.find?_cons]
      by_cases isSeen : graph.fullName first ∈ seen
      · rw [if_pos isSeen, inductionHypothesis]
        by_cases sameName : graph.fullName first = graph.fullName id
        · simp [← sameName, isSeen]
        · rw [beq_eq_false_iff_ne.mpr sameName]
      · rw [if_neg isSeen, List.mem_cons, inductionHypothesis]
        by_cases sameName : graph.fullName first = graph.fullName id
        · simp [← sameName, isSeen, eq_comm]
        · have differs : id ≠ first := fun same => sameName (same ▸ rfl)
          rw [beq_eq_false_iff_ne.mpr sameName]
          simp [differs, Ne.symm sameName]

/-- The first entities of each name have distinct full names. -/
theorem nodup_firstOfEachName (graph : Graph) (ids : List EntityId) (seen : List String) :
    ((graph.firstOfEachName ids seen).map graph.fullName).Nodup := by
  induction ids generalizing seen with
  | nil => exact List.nodup_nil
  | cons first rest inductionHypothesis =>
      unfold firstOfEachName
      dsimp only
      split
      · exact inductionHypothesis seen
      · refine List.nodup_cons.mpr ⟨fun isAgain => ?_, inductionHypothesis _⟩
        obtain ⟨other, isOther, sameName⟩ := List.mem_map.mp isAgain
        exact (mem_firstOfEachName.mp isOther).1 (sameName ▸ List.mem_cons_self)

/-- An index is made from the first entity of each name. -/
theorem mem_indexed :
    id ∈ graph.indexed ids ↔ graph.firstNamed? ids (graph.fullName id) = some id := by
  unfold indexed
  rw [mem_firstOfEachName, firstNamed?_byFullName]
  simp

/-- The entities that an index is made from go through all full names in ascending order. -/
theorem map_indexed (graph : Graph) (ids : List EntityId) :
    (graph.indexed ids).map graph.fullName = graph.namesInOrder ids := by
  have ascending := (graph.byFullName_ascending ids).sublist
    ((graph.firstOfEachName_sublist _ []).map graph.fullName)
  have distinct := graph.nodup_firstOfEachName (graph.byFullName ids) []
  have increasing := (ascending.and distinct).imp fun both => lt_of_le_of_ne both.1 both.2
  refine increasing.sortedLT.eq_of_mem_iff (Finset.sortedLT_sort _) fun name => ?_
  rw [namesInOrder, Finset.mem_sort, List.mem_toFinset, List.mem_map, List.mem_map]
  constructor
  · rintro ⟨id, isIndexed, isName⟩
    exact ⟨id, (firstNamed?_eq_some (mem_indexed.mp isIndexed)).1, isName⟩
  · rintro ⟨id, isGiven, rfl⟩
    obtain ⟨first, found⟩ := @exists_firstNamed? graph ids id isGiven
    have sameName := (firstNamed?_eq_some found).2
    exact ⟨first, mem_indexed.mpr (sameName.symm ▸ found), sameName⟩

/-- What has no documentation has no records. -/
theorem recordsOf_eq_nil (undocumented : graph.hasDocumentation id = false) :
    graph.recordsOf id = [] := by
  refine List.eq_nil_iff_forall_not_mem.mpr fun record isRecord => ?_
  have documented := hasDocumentation_of_isDocumented (isDocumented_of_mem_recordsOf isRecord)
  rw [undocumented] at documented
  exact Bool.noConfusion documented

/-- Leaving out what has no documentation leaves out no record. -/
theorem flatMap_filter_hasDocumentation (graph : Graph) (ids : List EntityId) :
    (ids.filter graph.hasDocumentation).flatMap graph.recordsOf = ids.flatMap graph.recordsOf := by
  induction ids with
  | nil => rfl
  | cons id rest inductionHypothesis =>
      rw [List.filter_cons, List.flatMap_cons, ← inductionHypothesis]
      cases documented : graph.hasDocumentation id with
      | true => rw [if_pos rfl, List.flatMap_cons]
      | false => rw [if_neg Bool.false_ne_true, recordsOf_eq_nil documented, List.nil_append]

/-- The records of an index are those of its entities, one block after the other. -/
theorem records_eq_flatMap_indexed (graph : Graph) (ids : List EntityId) :
    (graph.searchIndex ids).records = (graph.indexed ids).flatMap graph.recordsOf :=
  graph.flatMap_filter_hasDocumentation _

/-- In front of a method among the records of its owner stand the owner's own record and other
methods of the owner. -/
theorem in_front_of_method {before behind : List SearchRecord} {owner method : String}
    {summary anchorUrl : Value}
    (splits : graph.recordsOf id = before ++ .method owner method summary anchorUrl :: behind) :
    graph.fullName id = owner ∧ ∃ methods, before = graph.ownRecord id :: methods ∧
      ∀ record ∈ methods, record.isMethodOf owner = true := by
  have isRecord : .method owner method summary anchorUrl ∈ graph.recordsOf id := by
    rw [splits]
    exact List.mem_append_right _ List.mem_cons_self
  have isOwner := owner_of_mem_recordsOf isRecord
  have starts : graph.recordsOf id =
      graph.ownRecord id :: (graph.entity id).methods.map (graph.methodRecord id) := by
    unfold recordsOf
    dsimp only
    rw [if_pos (isDocumented_of_mem_recordsOf isRecord)]
    rfl
  rw [starts] at splits
  refine ⟨isOwner, ?_⟩
  cases before with
  | nil => exact absurd (List.cons.inj splits).1 nofun
  | cons own methods =>
      obtain ⟨rfl, areMethods⟩ := List.cons.inj splits
      refine ⟨methods, rfl, fun record isBetween => ?_⟩
      have isMethod : record ∈ (graph.entity id).methods.map (graph.methodRecord id) := by
        rw [areMethods]
        exact List.mem_append_left _ isBetween
      obtain ⟨other, -, rfl⟩ := List.mem_map.mp isMethod
      simp [methodRecord, SearchRecord.isMethodOf, isOwner]

/-- In front of a method among the records of several entities stand, closest to it, the own
record of its owner and other methods of the owner. -/
theorem owner_in_front_of_method {before behind : List SearchRecord} {owner method : String}
    {summary anchorUrl : Value}
    (splits : ids.flatMap graph.recordsOf =
      before ++ .method owner method summary anchorUrl :: behind) :
    ∃ id ∈ ids, graph.fullName id = owner ∧ ∃ earlier methods,
      before = earlier ++ graph.ownRecord id :: methods ∧
        ∀ record ∈ methods, record.isMethodOf owner = true := by
  induction ids generalizing before with
  | nil => exact absurd splits.symm (by simp)
  | cons first rest inductionHypothesis =>
      have behindFirst (others : List SearchRecord)
          (isBefore : before = graph.recordsOf first ++ others)
          (isRest : rest.flatMap graph.recordsOf =
            others ++ .method owner method summary anchorUrl :: behind) :
          ∃ id ∈ first :: rest, graph.fullName id = owner ∧ ∃ earlier methods,
            before = earlier ++ graph.ownRecord id :: methods ∧
              ∀ record ∈ methods, record.isMethodOf owner = true := by
        obtain ⟨other, isOther, isOwner, earlier, methods, isOthers, areMethods⟩ :=
          inductionHypothesis isRest
        refine ⟨other, List.mem_cons_of_mem _ isOther, isOwner, graph.recordsOf first ++ earlier,
          methods, ?_, areMethods⟩
        rw [isBefore, isOthers, List.append_assoc]
      rw [List.flatMap_cons] at splits
      rcases List.append_eq_append_iff.mp splits with
        ⟨others, isBefore, isRest⟩ | ⟨following, isBlock, isBehind⟩
      · exact behindFirst others isBefore isRest
      · rcases List.append_eq_cons_iff.mp isBehind.symm with
          ⟨rfl, isRest⟩ | ⟨furtherMethods, rfl, -⟩
        · exact behindFirst [] (by simpa using isBlock.symm) isRest
        · obtain ⟨isOwner, methods, isBefore, areMethods⟩ := in_front_of_method isBlock
          exact ⟨first, List.mem_cons_self, isOwner, [], methods, isBefore, areMethods⟩

/-- The records of an index, whatever entities it is made from, are the blocks of all their full
names in ascending order. Every method stands right behind records of its owner, the owner's own
record first, and no record is left out for want of documentation. -/
theorem searchIndex_in_blocks (graph : Graph) (classes : List EntityId) :
    (graph.searchIndex classes).records =
        (graph.namesInOrder classes).flatMap (graph.blockNamed classes) ∧
      (∀ before owner method summary anchorUrl behind,
        (graph.searchIndex classes).records =
            before ++ .method owner method summary anchorUrl :: behind →
          ∃ id, graph.firstNamed? classes owner = some id ∧ ∃ earlier methods,
            before = earlier ++ graph.ownRecord id :: methods ∧
              ∀ record ∈ methods, record.isMethodOf owner = true) ∧
      (graph.searchIndex classes).records =
        (graph.indexed classes).flatMap graph.recordsOf := by
  have ungated := graph.records_eq_flatMap_indexed classes
  refine ⟨?_, ?_, ungated⟩
  · rw [ungated, ← map_indexed, List.flatMap_map]
    exact List.flatMap_congr fun id isIndexed =>
      (blockNamed_of_first (mem_indexed.mp isIndexed)).symm
  · intro before owner method summary anchorUrl behind splits
    rw [ungated] at splits
    obtain ⟨id, isIndexed, rfl, inFront⟩ := owner_in_front_of_method splits
    exact ⟨id, mem_indexed.mp isIndexed, inFront⟩

end Graph

end DocAtlas
