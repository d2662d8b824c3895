import DocAtlas.Proofs.Search.NameIndex
import DocAtlas.Proofs.Text.LowerCase

/-!
# Coverage of a name index

An index of records holds every key of every record once. Keys are told apart by their
spelling before they are lowered, and lowering could make one entry of two keys; but the
qualified name of a method stays longer than its bare name, since the lower-case form of a
text is as long as the forms of its characters together.
-/

namespace DocAtlas

namespace SearchRecord

/-- How many names a record is found by: an entity by one, a method by two. -/
def nameCount : SearchRecord → Nat
  | entity _ _ _ => 1
  | method _ _ _ _ => 2

/-- A record has as many search keys as it counts names. -/
theorem length_keys (record : SearchRecord) : record.keys.length = record.nameCount := by
  cases record <;> rfl

/-- The qualified and the bare name of a method differ in lower case. -/
theorem lower_qualified_ne (owner name : String) :
    Text.lower (qualified owner name) ≠ Text.lower name := by
  intro same
  have split : (qualified owner name).toList = (owner.toList ++ ['#']) ++ name.toList := by
    simp [qualified]
  have longer := Text.length_lowerChars_lt
    (List.append_ne_nil_of_right_ne_nil owner.toList (List.cons_ne_nil '#' [])) name.toList
  rw [← split] at longer
  unfold Text.lower at same
  rw [String.ofList_inj.mp same] at longer
  exact absurd longer (lt_irrefl _)

/-- No two keys of a record fall together in lower case. -/
theorem nodup_lower_keys (record : SearchRecord) : (record.keys.map Text.lower).Nodup := by
  cases record with
  | entity => exact List.nodup_singleton _
  | method owner name => simpa [keys] using lower_qualified_ne owner name

/-- No key of a record is there twice. -/
theorem eraseDups_keys (record : SearchRecord) : record.keys.eraseDups = record.keys := by
  cases record with
  | entity => rfl
  | method owner name =>
      have differs : name ≠ qualified owner name := fun same =>
        lower_qualified_ne owner name (congrArg Text.lower same.symm)
      simp [keys, List.eraseDups_cons, differs]

end SearchRecord

namespace NameIndex

/-- Every key of records in lower case with the position of its record. -/
def namesOf (records : List SearchRecord) : List (NameEntry Int) :=
  records.zipIdx.flatMap fun placed =>
    placed.1.keys.map fun key => (Text.lower key, (placed.2 : Int))

/-- Records give an entry for each of their keys, none of which is left out. -/
theorem entriesFrom_eq (position : Nat) (records : List SearchRecord) :
    entriesFrom position records = (records.zipIdx position).flatMap fun placed =>
      placed.1.keys.map fun key => (Text.lower key, (placed.2 : Int)) := by
  induction records generalizing position with
  | nil => rfl
  | cons record rest inductionHypothesis =>
      rw [entriesFrom, inductionHypothesis, record.eraseDups_keys, List.zipIdx_cons,
        List.flatMap_cons]

/-- An index of records holds their names. -/
theorem ofRecords_perm (records : List SearchRecord) :
    (ofRecords records).entries.toList.Perm (namesOf records) := by
  unfold namesOf
  rw [← entriesFrom_eq]
  exact ofEntries_perm _

/-- The names of records are as many as the records count together. -/
theorem length_namesOf (records : List SearchRecord) :
    (namesOf records).length = (records.map SearchRecord.nameCount).sum := by
  unfold namesOf
  rw [List.length_flatMap]
  conv_rhs => rw [← List.zipIdx_map_fst 0 records, List.map_map]
  refine congrArg List.sum (List.map_congr_left fun placed _ => ?_)
  rw [List.length_map, SearchRecord.length_keys]
  rfl

/-- No name of records is there twice at one position. -/
theorem nodup_namesOf (records : List SearchRecord) : (namesOf records).Nodup := by
  unfold namesOf
  rw [List.nodup_flatMap]
  constructor
  · rintro ⟨record, position⟩ -
    refine List.Nodup.of_map Prod.fst ?_
    rw [List.map_map]
    exact record.nodup_lower_keys
  · have places : (records.zipIdx.map Prod.snd).Nodup := by
      rw [List.zipIdx_map_snd]
      exact List.nodup_range'
    rw [List.nodup_iff_pairwise_ne, List.pairwise_map] at places
    refine places.imp fun {left right} differ => ?_
    intro entry isLeft isRight
    obtain ⟨key, -, rfl⟩ := List.mem_map.mp isLeft
    obtain ⟨other, -, same⟩ := List.mem_map.mp isRight
    exact differ (Int.ofNat.inj (Prod.mk.inj same).2).symm

/-- The index of records holds each of their keys in lower case once, with the position of its
record: one for an entity and two for a method, in strictly ascending order by key and position. -/
theorem ofRecords_covers (records : List SearchRecord) :
    (ofRecords records).entries.toList.Perm (namesOf records) ∧
      (ofRecords records).entries.toList.Pairwise (fun left right => toLex left < toLex right) ∧
      (ofRecords records).entries.toList.length = (records.map SearchRecord.nameCount).sum ∧
      (∀ record ∈ records, (record.keys.map Text.lower).Nodup) ∧
      ∀ entry ∈ (ofRecords records).entries.toList,
        ∃ place, place < records.length ∧ entry.2 = (place : Int) := by
  have perm := ofRecords_perm records
  refine ⟨perm, ?_, ?_, fun record _ => record.nodup_lower_keys, fun entry isEntry => ?_⟩
  · have ascending := ascending_ofEntries (entriesFrom 0 records)
    have distinct : (ofRecords records).entries.toList.Nodup :=
      perm.nodup_iff.mpr (nodup_namesOf records)
    exact (ascending.and distinct).imp fun both => lt_of_le_of_ne both.1 both.2
  · rw [perm.length_eq, length_namesOf]
  · obtain ⟨⟨record, place⟩, isPlaced, isName⟩ := List.mem_flatMap.mp (perm.mem_iff.mp isEntry)
    obtain ⟨key, -, rfl⟩ := List.mem_map.mp isName
    exact ⟨place, List.snd_lt_of_mem_zipIdx isPlaced, rfl⟩

end NameIndex

end DocAtlas
