import DocAtlas.Proofs.Manifest.Acceptance
import DocAtlas.Proofs.Tree.Alike

/-!
# Links by name

The place of an entity depends on the order of the records. What a loaded manifest contains
and which links it has can be read off the records by name, so two loaded manifests are
compared by name: an entity of one has a counterpart in the other when it is read from both,
and the links between counterparts are the same as far as the records name the same.
-/

namespace DocAtlas

/-- The entities of a graph without their links, place by place. -/
def Graph.contents (graph : Graph) : List Entity :=
  (List.range graph.size).map fun id => (graph.entity id).unlinked

/-- The contents of a graph are its entities without their links. -/
theorem Graph.mem_contents {graph : Graph} {entity : Entity} :
    entity ∈ graph.contents ↔ ∃ id < graph.size, (graph.entity id).unlinked = entity := by
  unfold contents
  simp only [List.mem_map, List.mem_range]

namespace Manifest

section Reading

variable {manifest : Value} {classes files : List Entity}
  (reading : IsReading manifest classes files)

/-- Behind all links a draft contains what was read. -/
theorem IsReading.contents_linked :
    reading.draft.linked.graph.contents = (classes ++ files).map Entity.unlinked := by
  have entities := @entities_draftWith classes files (recordsUnder "classes" manifest)
  unfold Graph.contents
  rw [← entities, List.map_map, Draft.size_linked]
  refine List.map_congr_left fun id isPlace => ?_
  rw [List.mem_range] at isPlace
  rw [Draft.entity_linked isPlace, Draft.entity_parented isPlace]
  rfl

/-- The files of what is loaded have the names of those that are read. -/
theorem IsReading.files_linked :
    reading.draft.linked.files.map reading.draft.linked.graph.fullName =
      files.map Entity.fullName := by
  have filesRead := (@map_entity_draftWith classes files (recordsUnder "classes" manifest)).2
  rw [Draft.fullNames_linked]
  conv_rhs => rw [← filesRead, List.map_map]
  rfl

variable (typed : isWellTyped manifest = true) (loadable : IsLoadable manifest reading.draft)
include typed loadable

/-- Among the entities of a loaded draft, parents are parents by name. -/
theorem IsReading.hasParent_iff {child parent : EntityId}
    (childPlace : child < reading.draft.linked.graph.size)
    (parentPlace : parent < reading.draft.linked.graph.size) :
    reading.draft.linked.graph.HasParent child parent ↔
      NamesParent manifest (reading.draft.linked.graph.fullName child)
        (reading.draft.linked.graph.fullName parent) := by
  rw [Draft.size_linked] at childPlace parentPlace
  rw [Draft.fullName_linked, Draft.fullName_linked]
  refine ⟨reading.namesParent_of_hasParent typed loadable.checked, fun namesParent => ?_⟩
  obtain ⟨other, hasParent, otherPlace, sameName⟩ :=
    reading.hasParent_of_namesParent typed loadable.checked loadable.resolves.parents childPlace
      namesParent
  rw [← loadable.checked.eq_of_fullName_eq otherPlace parentPlace sameName]
  exact hasParent

/-- Children are children by name: they name their parent, or are listed by it. -/
theorem IsReading.mem_children_iff {child parent : EntityId}
    (childPlace : child < reading.draft.linked.graph.size)
    (parentPlace : parent < reading.draft.linked.graph.size) :
    child ∈ (reading.draft.linked.graph.entity parent).children ↔
      NamesParent manifest (reading.draft.linked.graph.fullName child)
          (reading.draft.linked.graph.fullName parent) ∨
        ListsChild manifest (reading.draft.linked.graph.fullName parent)
          (reading.draft.linked.graph.fullName child) := by
  have checked := loadable.checked
  rw [checked.mem_children_iff, reading.hasParent_iff typed loadable childPlace parentPlace]
  rw [Draft.size_linked] at childPlace parentPlace
  rw [Draft.fullName_linked, Draft.fullName_linked]
  refine or_congr_right ⟨?_, ?_⟩
  · rintro ⟨fields, isPlaced, name, isChild, found⟩
    obtain ⟨-, rfl⟩ := checked.find?_eq_some_iff.mp found
    exact ⟨fields, (List.of_mem_zip isPlaced).1, reading.fullName_of_placed typed isPlaced, isChild⟩
  · rintro ⟨fields, isRecord, isFullName, isChild⟩
    obtain ⟨id, isPlaced⟩ := reading.exists_place isRecord
    rw [reading.fullName_of_placed typed isPlaced, Option.some.injEq] at isFullName
    obtain rfl := checked.eq_of_fullName_eq (checked.placed_lt isPlaced) parentPlace isFullName
    exact ⟨fields, isPlaced, _, isChild, checked.find?_eq_some_iff.mpr ⟨childPlace, rfl⟩⟩

/-- Whatever is a parent by name is the parent of a class or module. -/
theorem IsReading.exists_hasParent {child parent : String}
    (namesParent : NamesParent manifest child parent) :
    ∃ id ∈ reading.draft.linked.classes, ∃ above,
      reading.draft.linked.graph.HasParent id above ∧
        reading.draft.linked.graph.fullName id = child ∧
        reading.draft.linked.graph.fullName above = parent := by
  obtain ⟨fields, isRecord, isFullName, isParent⟩ := namesParent
  obtain ⟨id, isPlaced⟩ := reading.exists_place isRecord
  have isOwn := reading.fullName_of_placed typed isPlaced
  obtain rfl := Option.some.inj (isOwn.symm.trans isFullName)
  obtain ⟨above, hasParent, -, rfl⟩ := reading.hasParent_of_namesParent typed loadable.checked
    loadable.resolves.parents (loadable.checked.placed_lt isPlaced)
    ⟨fields, isRecord, isOwn, isParent⟩
  exact ⟨id, loadable.checked.mem_classes_of_placed isPlaced, above, hasParent,
    Draft.fullName_linked id, Draft.fullName_linked above⟩

end Reading

section Comparison

variable {manifest remainder : Value} {classes files otherClasses otherFiles : List Entity}
  (reading : IsReading manifest classes files)
  (otherReading : IsReading remainder otherClasses otherFiles)

/-- An entity that is read from another manifest too has a counterpart there. -/
theorem IsReading.exists_counterpart {id : EntityId}
    (isPlace : id < reading.draft.linked.graph.size)
    (isReadToo : ∀ entity ∈ classes ++ files,
      entity.fullName = reading.draft.linked.graph.fullName id →
        entity ∈ otherClasses ++ otherFiles) :
    ∃ other, Graph.IsCounterpart reading.draft.linked.graph otherReading.draft.linked.graph
        id other ∧
      (reading.draft.linked.graph.entity id).unlinked =
        (otherReading.draft.linked.graph.entity other).unlinked := by
  have isContent := Graph.mem_contents.mpr ⟨id, isPlace, rfl⟩
  rw [reading.contents_linked] at isContent
  obtain ⟨entity, isRead, same⟩ := List.mem_map.mp isContent
  have sameName : entity.unlinked.fullName =
      (reading.draft.linked.graph.entity id).unlinked.fullName := by
    rw [same]
  have isOtherContent : entity.unlinked ∈ otherReading.draft.linked.graph.contents := by
    rw [otherReading.contents_linked]
    exact List.mem_map_of_mem (isReadToo entity isRead sameName)
  obtain ⟨other, isOtherPlace, otherSame⟩ := Graph.mem_contents.mp isOtherContent
  have otherName : entity.unlinked.fullName =
      (otherReading.draft.linked.graph.entity other).unlinked.fullName := by
    rw [otherSame]
  exact ⟨other, ⟨isPlace, isOtherPlace, sameName.symm.trans otherName⟩,
    same.symm.trans otherSame.symm⟩

variable (typed : isWellTyped manifest = true) (otherTyped : isWellTyped remainder = true)
  (loadable : IsLoadable manifest reading.draft)
  (otherLoadable : IsLoadable remainder otherReading.draft)

include otherLoadable in
/-- Names tell entities apart, so the counterpart is the same entity. -/
theorem IsReading.unlinked_eq {id other : EntityId}
    (pair : Graph.IsCounterpart reading.draft.linked.graph otherReading.draft.linked.graph id other)
    (isReadToo : ∀ entity ∈ classes ++ files,
      entity.fullName = reading.draft.linked.graph.fullName id →
        entity ∈ otherClasses ++ otherFiles) :
    (reading.draft.linked.graph.entity id).unlinked =
      (otherReading.draft.linked.graph.entity other).unlinked := by
  have otherLinked := otherLoadable.checked.isLinked otherLoadable.accepted otherLoadable.acyclic
  obtain ⟨another, otherPair, same⟩ :=
    reading.exists_counterpart otherReading pair.isPlace isReadToo
  rw [otherLinked.distinct other another pair.isOtherPlace otherPair.isOtherPlace
    (pair.sameName.symm.trans otherPair.sameName)]
  exact same

include typed otherTyped loadable otherLoadable

variable {child otherChild parent otherParent : EntityId}
  (children : Graph.IsCounterpart reading.draft.linked.graph otherReading.draft.linked.graph
    child otherChild)
  (parents : Graph.IsCounterpart reading.draft.linked.graph otherReading.draft.linked.graph
    parent otherParent)
  (parentToo : NamesParent manifest (reading.draft.linked.graph.fullName child)
      (reading.draft.linked.graph.fullName parent) →
    NamesParent remainder (reading.draft.linked.graph.fullName child)
      (reading.draft.linked.graph.fullName parent))
include children parents parentToo

/-- Counterparts have parents that are counterparts. -/
theorem IsReading.hasParent_forth (hasParent : reading.draft.linked.graph.HasParent child parent) :
    otherReading.draft.linked.graph.HasParent otherChild otherParent := by
  rw [reading.hasParent_iff typed loadable children.isPlace parents.isPlace] at hasParent
  rw [otherReading.hasParent_iff otherTyped otherLoadable children.isOtherPlace
    parents.isOtherPlace, ← children.sameName, ← parents.sameName]
  exact parentToo hasParent

/-- Counterparts have children that are counterparts, where the other manifest lists them too. -/
theorem IsReading.mem_children_forth
    (memberToo : ListsChild manifest (reading.draft.linked.graph.fullName parent)
        (reading.draft.linked.graph.fullName child) →
      ListsChild remainder (reading.draft.linked.graph.fullName parent)
        (reading.draft.linked.graph.fullName child))
    (isChild : child ∈ (reading.draft.linked.graph.entity parent).children) :
    otherChild ∈ (otherReading.draft.linked.graph.entity otherParent).children := by
  rw [reading.mem_children_iff typed loadable children.isPlace parents.isPlace] at isChild
  rw [otherReading.mem_children_iff otherTyped otherLoadable children.isOtherPlace
    parents.isOtherPlace, ← children.sameName, ← parents.sameName]
  exact isChild.imp parentToo memberToo

end Comparison

end Manifest

end DocAtlas
