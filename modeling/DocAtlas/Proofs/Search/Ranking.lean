import DocAtlas.Proofs.Checked
import DocAtlas.Proofs.Search.Best
import DocAtlas.Proofs.Search.NameIndex

/-!
# Ranking

A search runs over the sorted names twice, and passes over entries in the second run
whose positions have a strong hit already. This module shows that both runs together
consider the hit of every entry, as one run over all entries would, and that the hits
listed in the end are the only ranking of their query.
-/

namespace DocAtlas

namespace SearchIndex

/-- The hit that an entry gives, if the query stands in its key. -/
def hitOf? (index : SearchIndex) (query : String) (entry : NameEntry Int) : Option Hit :=
  (Tier.of? query entry.1).bind fun tier =>
    (index.recordAt? entry.2).map fun record => ⟨record, entry.2, entry.1, tier⟩

/-- The hits that entries give, in order. -/
def hitsOf (index : SearchIndex) (query : String) (entries : List (NameEntry Int)) : List Hit :=
  entries.filterMap (index.hitOf? query)

/-- Every entry leads to a record. -/
def IsInRange (index : SearchIndex) (entries : List (NameEntry Int)) : Prop :=
  ∀ entry ∈ entries, ∃ record, index.recordAt? entry.2 = some record

/-- Offers every entry at its best tier, in one run. -/
def offerEvery (index : SearchIndex) (query : String) :
    List (NameEntry Int) → Best → Checked Best
  | [], best => .ok best
  | entry :: rest, best => do
    let best ←
      match Tier.of? query entry.1 with
      | some tier => index.offer entry tier best
      | none => pure best
    offerEvery index query rest best

/-- Hits in the order they are listed. -/
def ranked (best : Best) : List Hit :=
  best.mergeSort fun left right => !right.before left

variable {index : SearchIndex} {query : String}

/-- The hits of entries are those whose tier is the best and whose record is there. -/
theorem mem_hitsOf {entries : List (NameEntry Int)} {hit : Hit} :
    hit ∈ index.hitsOf query entries ↔
      (hit.key, hit.position) ∈ entries ∧ hit.tier.IsBest query hit.key ∧
        index.recordAt? hit.position = some hit.record := by
  unfold hitsOf hitOf?
  simp only [List.mem_filterMap, Option.bind_eq_some_iff, Option.map_eq_some_iff,
    Tier.of?_eq_some_iff]
  constructor
  · rintro ⟨entry, isEntry, tier, isBest, record, found, rfl⟩
    exact ⟨isEntry, isBest, found⟩
  · rintro ⟨isEntry, isBest, found⟩
    exact ⟨_, isEntry, hit.tier, isBest, hit.record, found, rfl⟩

/-- An entry that does not match gives no hit. -/
theorem hitsOf_cons_none {entry : NameEntry Int} (rest : List (NameEntry Int))
    (noTier : Tier.of? query entry.1 = none) :
    index.hitsOf query (entry :: rest) = index.hitsOf query rest := by
  unfold hitsOf
  apply List.filterMap_cons_none
  unfold hitOf?
  rw [noTier]
  rfl

/-- An entry that matches and has a record gives a hit. -/
theorem hitsOf_cons_some {entry : NameEntry Int} (rest : List (NameEntry Int)) {tier : Tier}
    (found : Tier.of? query entry.1 = some tier) {record : SearchRecord}
    (isRecord : index.recordAt? entry.2 = some record) :
    index.hitsOf query (entry :: rest) =
      ⟨record, entry.2, entry.1, tier⟩ :: index.hitsOf query rest := by
  unfold hitsOf
  apply List.filterMap_cons_some
  unfold hitOf?
  rw [found, Option.bind_some, isRecord]
  rfl

/-- Offering an entry whose record is there does not fail. -/
theorem offer_eq_ok {entry : NameEntry Int} {record : SearchRecord}
    (isRecord : index.recordAt? entry.2 = some record) (tier : Tier) (best : Best) :
    index.offer entry tier best = .ok (best.offer ⟨record, entry.2, entry.1, tier⟩) := by
  unfold offer
  rw [isRecord]

/-- One run over sorted entries considers the hit of each. -/
theorem offerEvery_isBestOf {entries : List (NameEntry Int)}
    (sorted : NameIndex.IsSorted entries) (inRange : index.IsInRange entries) :
    ∀ considered best, Best.IsBestOf considered best →
      (∀ old ∈ considered, ∀ entry ∈ entries, old.key ≤ entry.1) →
      ∃ after, index.offerEvery query entries best = .ok after ∧
        Best.IsBestOf (considered ++ index.hitsOf query entries) after := by
  induction entries with
  | nil =>
      intro considered best isBest _
      exact ⟨best, rfl, isBest.congr (by simp [hitsOf])⟩
  | cons entry rest inductionHypothesis =>
      intro considered best isBest inOrder
      obtain ⟨before, sorted⟩ := List.pairwise_cons.mp sorted
      obtain ⟨⟨record, isRecord⟩, inRange⟩ := List.forall_mem_cons.mp inRange
      have restInOrder : ∀ old ∈ considered, ∀ entry ∈ rest, old.key ≤ entry.1 :=
        fun old isOld other isRest => inOrder old isOld other (List.mem_cons_of_mem _ isRest)
      unfold offerEvery
      cases found : Tier.of? query entry.1 with
      | none =>
          rw [hitsOf_cons_none rest found]
          exact inductionHypothesis sorted inRange considered best isBest restInOrder
      | some tier =>
          have offered := isBest.offer ⟨record, entry.2, entry.1, tier⟩
            fun old isOld _ _ => inOrder old isOld entry List.mem_cons_self
          obtain ⟨after, answer, isAfter⟩ := inductionHypothesis sorted inRange _ _ offered
            fun old isOld other isRest => by
              rcases List.mem_append.mp isOld with isOld | isHit
              · exact restInOrder old isOld other isRest
              · rw [List.mem_singleton.mp isHit]
                exact before other isRest
          refine ⟨after, ?_, isAfter.congr fun hit => ?_⟩
          · dsimp only
            rw [offer_eq_ok isRecord, Checked.ok_bind]
            exact answer
          · rw [hitsOf_cons_some rest found isRecord, List.append_assoc, List.singleton_append]

/-- The run over the entries that the query starts is one run over these entries. -/
theorem offerLeading_eq {entries : List (NameEntry Int)}
    (leads : ∀ entry ∈ entries, query.toList <+: entry.1.toList) (best : Best) :
    index.offerLeading query entries best = index.offerEvery query entries best := by
  induction entries generalizing best with
  | nil => rfl
  | cons entry rest inductionHypothesis =>
      rw [List.forall_mem_cons] at leads
      unfold offerLeading offerEvery
      rw [Tier.of?_of_prefix leads.1]
      dsimp only
      congr 1
      ext next
      exact inductionHypothesis leads.2 next

/-- An entry whose tier is strong, or whose position has a strong hit, is passed over. -/
theorem offerWeaker_cons_of_passed {entry : NameEntry Int} (rest : List (NameEntry Int))
    {best : Best} {tier : Tier} (found : Tier.of? query entry.1 = some tier)
    (passed : tier.rank ≤ Tier.leading.rank ∨
      ∃ winner, best.at? entry.2 = some winner ∧ winner.tier.rank ≤ Tier.leading.rank) :
    index.offerWeaker query (entry :: rest) best = index.offerWeaker query rest best := by
  rw [offerWeaker, found]
  rcases passed with strong | ⟨winner, isWinner, strong⟩
  · cases tier with
    | exact => simp
    | leading => simp
    | inside => exact absurd strong (by decide)
    | scattered => exact absurd strong (by decide)
  · rw [isWinner]
    simp [strong]

/-- Every other entry that has a tier is offered. -/
theorem offerWeaker_cons_of_offered {entry : NameEntry Int} (rest : List (NameEntry Int))
    {best : Best} {tier : Tier} (found : Tier.of? query entry.1 = some tier)
    (weak : Tier.leading.rank < tier.rank)
    (unsettled : ∀ winner, best.at? entry.2 = some winner → Tier.leading.rank < winner.tier.rank)
    {record : SearchRecord} (isRecord : index.recordAt? entry.2 = some record) :
    index.offerWeaker query (entry :: rest) best =
      index.offerWeaker query rest (best.offer ⟨record, entry.2, entry.1, tier⟩) := by
  rw [offerWeaker, found]
  cases isWinner : best.at? entry.2 with
  | none =>
      cases tier with
      | exact => exact absurd weak (by decide)
      | leading => exact absurd weak (by decide)
      | inside => simp [offer_eq_ok isRecord]
      | scattered => simp [offer_eq_ok isRecord]
  | some winner =>
      have notStrong : ¬ winner.tier.rank ≤ Tier.leading.rank :=
        Nat.not_le_of_lt (unsettled winner isWinner)
      cases tier with
      | exact => exact absurd weak (by decide)
      | leading => exact absurd weak (by decide)
      | inside => simp [notStrong, offer_eq_ok isRecord]
      | scattered => simp [notStrong, offer_eq_ok isRecord]

/-- Whichever way an entry with a tier goes, its hit has been considered behind it. -/
theorem offerWeaker_step {entry : NameEntry Int} (rest : List (NameEntry Int)) {tier : Tier}
    (found : Tier.of? query entry.1 = some tier) {record : SearchRecord}
    (isRecord : index.recordAt? entry.2 = some record) {considered : List Hit} {best : Best}
    (isBest : Best.IsBestOf considered best)
    (strong : tier.rank ≤ Tier.leading.rank → ⟨record, entry.2, entry.1, tier⟩ ∈ considered)
    (inOrder : ∀ old ∈ considered, Tier.leading.rank < old.tier.rank → old.key ≤ entry.1) :
    ∃ next, index.offerWeaker query (entry :: rest) best = index.offerWeaker query rest next ∧
      Best.IsBestOf (considered ++ [⟨record, entry.2, entry.1, tier⟩]) next := by
  by_cases weak : Tier.leading.rank < tier.rank
  · by_cases settled : ∃ winner, best.at? entry.2 = some winner ∧
        winner.tier.rank ≤ Tier.leading.rank
    · refine ⟨best, offerWeaker_cons_of_passed rest found (.inr settled), ?_⟩
      obtain ⟨winner, isWinner, isStrong⟩ := settled
      have samePosition : winner.position = entry.2 := by
        simpa using List.find?_some isWinner
      refine isBest.passOver ⟨winner, List.mem_of_find?_eq_some isWinner, samePosition,
        le_of_lt ?_⟩
      exact Prod.Lex.toLex_lt_toLex.mpr (.inl (Nat.lt_of_le_of_lt isStrong weak))
    · have unsettled : ∀ winner, best.at? entry.2 = some winner →
          Tier.leading.rank < winner.tier.rank := fun winner isWinner =>
        Nat.lt_of_not_le fun isStrong => settled ⟨winner, isWinner, isStrong⟩
      refine ⟨_, offerWeaker_cons_of_offered rest found weak unsettled isRecord,
        isBest.offer _ fun old isOld _ sameRank => ?_⟩
      exact inOrder old isOld (by rw [sameRank]; exact weak)
  · refine ⟨best, offerWeaker_cons_of_passed rest found (.inl (Nat.le_of_not_lt weak)), ?_⟩
    exact isBest.passOver (isBest.least _ (strong (Nat.le_of_not_lt weak)))

/-- A run for the weaker tiers considers the hit of every entry behind those of the
stronger tiers. -/
theorem offerWeaker_isBestOf {entries : List (NameEntry Int)}
    (sorted : NameIndex.IsSorted entries) (inRange : index.IsInRange entries) :
    ∀ considered best, Best.IsBestOf considered best →
      (∀ hit ∈ index.hitsOf query entries, hit.tier.rank ≤ Tier.leading.rank →
        hit ∈ considered) →
      (∀ old ∈ considered, Tier.leading.rank < old.tier.rank →
        ∀ entry ∈ entries, old.key ≤ entry.1) →
      ∃ after, index.offerWeaker query entries best = .ok after ∧
        Best.IsBestOf (considered ++ index.hitsOf query entries) after := by
  induction entries with
  | nil =>
      intro considered best isBest _ _
      exact ⟨best, rfl, isBest.congr (by simp [hitsOf])⟩
  | cons entry rest inductionHypothesis =>
      intro considered best isBest strong inOrder
      obtain ⟨before, sorted⟩ := List.pairwise_cons.mp sorted
      obtain ⟨⟨record, isRecord⟩, inRange⟩ := List.forall_mem_cons.mp inRange
      have restInOrder : ∀ old ∈ considered, Tier.leading.rank < old.tier.rank →
          ∀ entry ∈ rest, old.key ≤ entry.1 := fun old isOld weak other isRest =>
        inOrder old isOld weak other (List.mem_cons_of_mem _ isRest)
      cases found : Tier.of? query entry.1 with
      | none =>
          rw [hitsOf_cons_none rest found] at strong ⊢
          obtain ⟨after, answer, isAfter⟩ :=
            inductionHypothesis sorted inRange considered best isBest strong restInOrder
          refine ⟨after, ?_, isAfter⟩
          unfold offerWeaker
          rw [found]
          simpa using answer
      | some tier =>
          have hits := hitsOf_cons_some rest found isRecord
          rw [hits, List.forall_mem_cons] at strong
          obtain ⟨next, same, isNext⟩ := offerWeaker_step rest found isRecord isBest strong.1
            fun old isOld weak => inOrder old isOld weak entry List.mem_cons_self
          obtain ⟨after, answer, isAfter⟩ := inductionHypothesis sorted inRange _ next isNext
            (fun hit isHit isStrong => List.mem_append_left _ (strong.2 hit isHit isStrong))
            (fun old isOld weak other isRest => by
              rcases List.mem_append.mp isOld with isOld | isHit
              · exact restInOrder old isOld weak other isRest
              · rw [List.mem_singleton.mp isHit]
                exact before other isRest)
          refine ⟨after, same.trans answer, isAfter.congr fun hit => ?_⟩
          rw [hits, List.append_assoc, List.singleton_append]

/-- The ranking of a query over records: one hit for each record with a key that the
query is a subsequence of, by its best key and the best tier of that key, in order of
standing. -/
structure IsRanking (records : List SearchRecord) (query : String) (hits : List Hit) : Prop where
  covers : ∀ place : Nat, (∃ hit ∈ hits, hit.position = place) ↔
    ∃ record, records[place]? = some record ∧
      ∃ key ∈ record.keys, query.toList.Sublist (Text.lower key).toList
  single : (hits.map Hit.position).Nodup
  found : ∀ hit ∈ hits, ∃ place : Nat, hit.position = place ∧
    records[place]? = some hit.record ∧ (∃ key ∈ hit.record.keys, hit.key = Text.lower key) ∧
    hit.tier.IsBest query hit.key
  least : ∀ hit ∈ hits, ∀ key ∈ hit.record.keys, ∀ tier : Tier,
    tier.IsBest query (Text.lower key) → hit.grade ≤ Hit.gradeOf tier (Text.lower key)
  increasing : hits.Pairwise fun left right => left.standing < right.standing

/-- Hits of different positions are listed with strictly increasing standing. -/
theorem ranked_increasing {best : Best} (nodup : (best.map Hit.position).Nodup) :
    (ranked best).Pairwise fun left right => left.standing < right.standing := by
  have perm : (ranked best).Perm best := List.mergeSort_perm _ _
  have sameOrder : (ranked best).map Hit.standing =
      (best.map Hit.standing).mergeSort (· ≤ ·) := by
    refine List.map_mergeSort fun left _ right _ => ?_
    rw [Hit.before_eq, ← decide_not, Bool.eq_iff_iff, decide_eq_true_iff, decide_eq_true_iff,
      not_lt]
  have sorted := List.pairwise_mergeSort' (· ≤ ·) (best.map Hit.standing)
  rw [← sameOrder, List.pairwise_map] at sorted
  have distinct := (perm.map Hit.position).nodup_iff.mpr nodup
  rw [List.nodup_iff_pairwise_ne, List.pairwise_map] at distinct
  refine (sorted.and distinct).imp fun {left right} both => lt_of_le_of_ne both.1 fun same => ?_
  have sameRest := congrArg Prod.snd (toLex.injective same)
  exact both.2 (congrArg Prod.snd (toLex.injective sameRest))

/-- A position that is not negative counts records from the front. -/
theorem recordAt?_natCast (index : SearchIndex) (place : Nat) :
    index.recordAt? place = index.records[place]? := by
  simp [recordAt?]

/-- The hits of all entries of an index are those of the keys of its records. -/
theorem mem_hitsOf_ofRecords {records : List SearchRecord} {hit : Hit} :
    hit ∈ hitsOf ⟨records, .ofRecords records⟩ query
        (NameIndex.ofRecords records).entries.toList ↔
      ∃ place : Nat, hit.position = place ∧ records[place]? = some hit.record ∧
        (∃ key ∈ hit.record.keys, hit.key = Text.lower key) ∧ hit.tier.IsBest query hit.key := by
  rw [mem_hitsOf, NameIndex.ofRecords, NameIndex.mem_ofEntries, NameIndex.mem_entriesFrom]
  constructor
  · rintro ⟨⟨place, record, isRecord, isPosition, isKey⟩, isBest, found⟩
    have isPlace : hit.position = (place : Int) := by simpa using isPosition
    rw [isPlace, recordAt?_natCast] at found
    cases isRecord.symm.trans found
    exact ⟨place, isPlace, isRecord, isKey, isBest⟩
  · rintro ⟨place, isPlace, isRecord, isKey, isBest⟩
    refine ⟨⟨place, hit.record, isRecord, by simpa using isPlace, isKey⟩, isBest, ?_⟩
    rw [isPlace, recordAt?_natCast]
    exact isRecord

/-- The best of the hits of all entries, listed, are the ranking of their query. -/
theorem isRanking_of_isBestOf {records : List SearchRecord} {best : Best}
    (isBest : Best.IsBestOf (hitsOf ⟨records, .ofRecords records⟩ query
      (NameIndex.ofRecords records).entries.toList) best) :
    IsRanking records query (ranked best) := by
  have perm : (ranked best).Perm best := List.mergeSort_perm _ _
  have found : ∀ hit ∈ ranked best, ∃ place : Nat, hit.position = place ∧
      records[place]? = some hit.record ∧ (∃ key ∈ hit.record.keys, hit.key = Text.lower key) ∧
      hit.tier.IsBest query hit.key := fun hit isHit =>
    mem_hitsOf_ofRecords.mp (isBest.made hit (perm.mem_iff.mp isHit))
  have beats : ∀ (place : Nat) record, records[place]? = some record → ∀ key ∈ record.keys,
      ∀ tier : Tier, tier.IsBest query (Text.lower key) →
        ∃ hit ∈ ranked best, hit.position = place ∧
          hit.grade ≤ Hit.gradeOf tier (Text.lower key) := by
    intro place record isRecord key isKey tier isTier
    obtain ⟨hit, isHit, samePosition, better⟩ := isBest.least
      ⟨record, place, Text.lower key, tier⟩
      (mem_hitsOf_ofRecords.mpr ⟨place, rfl, isRecord, ⟨key, isKey, rfl⟩, isTier⟩)
    exact ⟨hit, perm.mem_iff.mpr isHit, samePosition, better⟩
  have single := (perm.map Hit.position).nodup_iff.mpr isBest.nodup
  refine ⟨fun place => ⟨?_, ?_⟩, single, found, ?_, ranked_increasing isBest.nodup⟩
  · rintro ⟨hit, isHit, isPosition⟩
    obtain ⟨other, samePlace, isRecord, ⟨key, isKey, isLower⟩, isTier⟩ := found hit isHit
    obtain rfl : place = other := by
      rw [isPosition] at samePlace
      exact_mod_cast samePlace
    refine ⟨hit.record, isRecord, key, isKey, ?_⟩
    rw [← isLower]
    exact isTier.stands.sublist
  · rintro ⟨record, isRecord, key, isKey, isSubsequence⟩
    cases isTier : Tier.of? query (Text.lower key) with
    | none => exact absurd isSubsequence (Tier.of?_eq_none_iff.mp isTier)
    | some tier =>
        obtain ⟨hit, isHit, isPosition, -⟩ :=
          beats place record isRecord key isKey tier (Tier.of?_isBest isTier)
        exact ⟨hit, isHit, isPosition⟩
  · intro hit isHit key isKey tier isTier
    obtain ⟨place, isPlace, isRecord, -⟩ := found hit isHit
    obtain ⟨winner, isWinner, samePosition, better⟩ :=
      beats place hit.record isRecord key isKey tier isTier
    rw [← List.inj_on_of_nodup_map single isWinner isHit (samePosition.trans isPlace.symm)]
    exact better

/-- A hit of a ranking is in every other ranking of its query. -/
theorem IsRanking.subset {records : List SearchRecord} {hits others : List Hit}
    (isRanking : IsRanking records query hits) (isOther : IsRanking records query others) :
    hits ⊆ others := by
  intro hit isHit
  obtain ⟨place, isPlace, isRecord, ⟨key, isKey, isLower⟩, isTier⟩ := isRanking.found hit isHit
  obtain ⟨other, isThere, isPosition⟩ := (isOther.covers place).mpr
    ((isRanking.covers place).mp ⟨hit, isHit, isPlace⟩)
  obtain ⟨otherPlace, isOtherPlace, isOtherRecord, ⟨otherKey, isOtherKey, isOtherLower⟩,
    isOtherTier⟩ := isOther.found other isThere
  obtain rfl : place = otherPlace := by
    rw [isPosition] at isOtherPlace
    exact_mod_cast isOtherPlace
  have sameRecord : hit.record = other.record := by
    rw [isRecord] at isOtherRecord
    exact Option.some.inj isOtherRecord
  -- Each of the two hits is at least as good as the other one.
  have better := isRanking.least hit isHit otherKey (by rw [sameRecord]; exact isOtherKey)
    other.tier (by rw [← isOtherLower]; exact isOtherTier)
  have worse := isOther.least other isThere key (by rw [← sameRecord]; exact isKey)
    hit.tier (by rw [← isLower]; exact isTier)
  rw [← isOtherLower] at better
  rw [← isLower] at worse
  have sameGrade := toLex.injective (le_antisymm better worse)
  have sameKey : hit.key = other.key :=
    congrArg Prod.snd (toLex.injective (congrArg Prod.snd sameGrade))
  rw [← sameKey] at isOtherTier
  have same : hit = other := by
    cases hit
    cases other
    simp only [Hit.mk.injEq]
    exact ⟨sameRecord, isPlace.trans isPosition.symm, sameKey, isTier.unique isOtherTier⟩
  rw [same]
  exact isThere

/-- A query has one ranking only. -/
theorem IsRanking.unique {records : List SearchRecord} {hits others : List Hit}
    (isRanking : IsRanking records query hits) (isOther : IsRanking records query others) :
    hits = others := by
  have irreflexive : Std.Irrefl fun left right : Hit => left.standing < right.standing :=
    ⟨fun hit => lt_irrefl hit.standing⟩
  have antisymmetric : Std.Antisymm fun left right : Hit => left.standing < right.standing :=
    ⟨fun _ _ before behind => absurd before (lt_asymm behind)⟩
  exact (isRanking.subset isOther).antisymm_of_pairwise isRanking.increasing isOther.increasing
    (isOther.subset isRanking)

/-- Both runs of a search consider the hits of all entries. -/
theorem offer_both_isBestOf {entries leading : List (NameEntry Int)}
    (sorted : NameIndex.IsSorted entries) (inRange : index.IsInRange entries)
    (areLeading : leading = entries.filter fun entry => NameIndex.startsWith query entry.1) :
    ∃ strong after, index.offerLeading query leading [] = .ok strong ∧
      index.offerWeaker query entries strong = .ok after ∧
      Best.IsBestOf (index.hitsOf query entries) after := by
  have mem_leading : ∀ entry, entry ∈ leading ↔
      entry ∈ entries ∧ query.toList <+: entry.1.toList := fun entry => by
    rw [areLeading, List.mem_filter, NameIndex.startsWith_iff]
  have leadingSorted : NameIndex.IsSorted leading := by
    rw [areLeading]
    exact sorted.sublist List.filter_sublist
  obtain ⟨strong, answer, isStrong⟩ := @offerEvery_isBestOf index query leading leadingSorted
    (fun entry isLeading => inRange entry ((mem_leading entry).mp isLeading).1) [] []
    Best.isBestOf_nil (fun _ absurdity => absurd absurdity List.not_mem_nil)
  rw [List.nil_append] at isStrong
  obtain ⟨after, weakerAnswer, isAfter⟩ := offerWeaker_isBestOf sorted inRange _ strong isStrong
    (fun hit isHit rank => by
      rw [mem_hitsOf] at isHit ⊢
      have starts := (Tier.rank_le_leading_iff isHit.2.1).mp rank
      exact ⟨(mem_leading _).mpr ⟨isHit.1, starts⟩, isHit.2⟩)
    (fun old isOld weak => by
      rw [mem_hitsOf] at isOld
      have starts := ((mem_leading _).mp isOld.1).2
      exact absurd ((Tier.rank_le_leading_iff isOld.2.1).mpr starts) (Nat.not_le_of_lt weak))
  have runs : index.offerLeading query leading [] = .ok strong :=
    (offerLeading_eq (fun entry isLeading => ((mem_leading entry).mp isLeading).2) []).trans answer
  refine ⟨strong, after, runs, weakerAnswer, isAfter.congr fun hit => ?_⟩
  rw [List.mem_append, mem_hitsOf, mem_hitsOf, mem_leading]
  tauto

/-- The name index of records points into them. -/
theorem isInRange_ofRecords (records : List SearchRecord) :
    IsInRange ⟨records, .ofRecords records⟩ (NameIndex.ofRecords records).entries.toList := by
  intro entry isEntry
  rw [NameIndex.ofRecords, NameIndex.mem_ofEntries, NameIndex.mem_entriesFrom] at isEntry
  obtain ⟨place, record, isRecord, isPosition, -⟩ := isEntry
  rw [Nat.zero_add] at isPosition
  exact ⟨record, by rw [isPosition, recordAt?_natCast]; exact isRecord⟩

/-- Over the index of records, the two runs and the one run end at rankings. -/
theorem runs_isRanking (records : List SearchRecord) (query : String) :
    ∃ strong after every,
      offerLeading ⟨records, .ofRecords records⟩ query
        ((NameIndex.ofRecords records).startingWith query) [] = .ok strong ∧
      offerWeaker ⟨records, .ofRecords records⟩ query
        (NameIndex.ofRecords records).entries.toList strong = .ok after ∧
      offerEvery ⟨records, .ofRecords records⟩ query
        (NameIndex.ofRecords records).entries.toList [] = .ok every ∧
      IsRanking records query (ranked after) ∧ IsRanking records query (ranked every) := by
  have sorted : NameIndex.IsSorted (NameIndex.ofRecords records).entries.toList :=
    NameIndex.isSorted_ofEntries _
  have inRange := isInRange_ofRecords records
  obtain ⟨strong, after, leads, weaker, isBest⟩ := @offer_both_isBestOf _ query _ _ sorted inRange
    (NameIndex.startingWith_eq_filter sorted query)
  obtain ⟨every, answer, isEvery⟩ := @offerEvery_isBestOf _ query _ sorted inRange [] []
    Best.isBestOf_nil (fun _ absurdity => absurd absurdity List.not_mem_nil)
  rw [List.nil_append] at isEvery
  exact ⟨strong, after, every, leads, weaker, answer, isRanking_of_isBestOf isBest,
    isRanking_of_isBestOf isEvery⟩

/-- A search never fails. A query of blanks finds nothing, and any other query has a
ranking, which the search answers, and which one run over all entries gives as well. -/
theorem search_eq_ranking (records : List SearchRecord) (text : String) :
    let index : SearchIndex := ⟨records, .ofRecords records⟩
    let query := normalizeQuery text
    if query = "" then index.search text none = .ok []
    else ∃ hits, index.search text none = .ok hits ∧ IsRanking records query hits ∧
      (∀ others, IsRanking records query others → others = hits) ∧
      (index.offerEvery query index.names.entries.toList []).map ranked = .ok hits := by
  dsimp only
  unfold search hits
  dsimp only
  generalize normalizeQuery text = query
  by_cases isBlank : query = ""
  · rw [if_pos isBlank, if_pos isBlank]
    rfl
  · rw [if_neg isBlank]
    obtain ⟨strong, after, every, leads, weaker, answer, isRanking, isEvery⟩ :=
      runs_isRanking records query
    refine ⟨ranked after, ?_, isRanking, fun others isOther => isOther.unique isRanking, ?_⟩
    · rw [if_neg isBlank, leads, Checked.ok_bind, weaker]
      rfl
    · rw [answer]
      exact congrArg Except.ok (isEvery.unique isRanking)

end SearchIndex

end DocAtlas
