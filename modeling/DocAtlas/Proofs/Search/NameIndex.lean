import DocAtlas.Search.NameIndex
import Mathlib.Data.List.Sort
import Mathlib.Data.List.TakeWhile
import Mathlib.Data.Prod.Lex
import Mathlib.Data.String.Basic

/-!
# Prefixes in a name index

The keys of an index run up, so those that a text starts stand together, from the lower
bound of the text on. This module shows that the binary search finds the lower bound and
that reading on from there gives all entries that the text starts and no others, as a scan
of everything that was indexed would.
-/

namespace DocAtlas.NameIndex

/-- Entries whose keys run up. -/
def IsSorted {Position : Type} (entries : List (NameEntry Position)) : Prop :=
  entries.Pairwise fun left right => left.1 ≤ right.1

/-- The order of entries is that of their keys and positions. -/
theorem le_eq (left right : NameEntry Int) :
    NameEntry.le left right = decide (toLex left ≤ toLex right) := by
  unfold NameEntry.le
  rw [Bool.eq_iff_iff, decide_eq_true_iff, Prod.Lex.toLex_le_toLex, Bool.or_eq_true,
    Bool.and_eq_true, decide_eq_true_iff, decide_eq_true_iff, beq_iff_eq]

/-- An index holds the entries that it is given, each as often. -/
theorem ofEntries_perm (entries : List (NameEntry Int)) :
    (ofEntries entries).entries.toList.Perm entries := by
  unfold ofEntries
  rw [List.toList_toArray]
  exact List.mergeSort_perm entries NameEntry.le

/-- An index has the entries that it is made of. -/
theorem mem_ofEntries {entries : List (NameEntry Int)} {entry : NameEntry Int} :
    entry ∈ (ofEntries entries).entries.toList ↔ entry ∈ entries :=
  (ofEntries_perm entries).mem_iff

/-- The entries of an index run up by key and, for equal keys, by position. -/
theorem ascending_ofEntries (entries : List (NameEntry Int)) :
    (ofEntries entries).entries.toList.Pairwise fun left right => toLex left ≤ toLex right := by
  have sameOrder : (entries.mergeSort NameEntry.le).map toLex =
      (entries.map toLex).mergeSort (· ≤ ·) :=
    List.map_mergeSort fun left _ right _ => le_eq left right
  have sorted := List.pairwise_mergeSort' (· ≤ ·) (entries.map toLex)
  rw [← sameOrder, List.pairwise_map] at sorted
  unfold ofEntries
  rw [List.toList_toArray]
  exact sorted

/-- The entries of an index are sorted by key. -/
theorem isSorted_ofEntries (entries : List (NameEntry Int)) :
    IsSorted (ofEntries entries).entries.toList := by
  refine (ascending_ofEntries entries).imp fun {left right} before => ?_
  rcases (Prod.Lex.toLex_le_toLex).mp before with smaller | ⟨same, -⟩
  · exact le_of_lt smaller
  · exact le_of_eq same

/-- Records have an entry for each of their keys, with their position. -/
theorem mem_entriesFrom {start : Nat} {records : List SearchRecord} {entry : NameEntry Int} :
    entry ∈ entriesFrom start records ↔
      ∃ place record, records[place]? = some record ∧ entry.2 = ((start + place : Nat) : Int) ∧
        ∃ key ∈ record.keys, entry.1 = Text.lower key := by
  induction records generalizing start with
  | nil => simp [entriesFrom]
  | cons first rest inductionHypothesis =>
      unfold entriesFrom
      rw [List.mem_append, inductionHypothesis, List.mem_map]
      simp only [List.mem_eraseDups]
      constructor
      · rintro (⟨key, isKey, rfl⟩ | ⟨place, record, found, isPosition, isKey⟩)
        · exact ⟨0, first, rfl, rfl, key, isKey, rfl⟩
        · refine ⟨place + 1, record, found, ?_, isKey⟩
          rw [isPosition]
          push_cast
          omega
      · rintro ⟨place, record, found, isPosition, key, isKey, isLower⟩
        cases place with
        | zero =>
            cases found
            exact .inl ⟨key, isKey, Prod.ext isLower.symm isPosition.symm⟩
        | succ place =>
            refine .inr ⟨place, record, found, ?_, key, isKey, isLower⟩
            rw [isPosition]
            push_cast
            omega

section LowerBound

variable {Position : Type} {entries : Array (NameEntry Position)} {target : String}

/-- Keys of sorted entries ascend with their places. -/
theorem key_le_of_le (sorted : IsSorted entries.toList) {left right : Nat}
    {first second : NameEntry Position} (isFirst : entries[left]? = some first)
    (isSecond : entries[right]? = some second) (notBehind : left ≤ right) :
    first.1 ≤ second.1 := by
  rcases Nat.eq_or_lt_of_le notBehind with rfl | before
  · rw [isFirst] at isSecond
    rw [Option.some.inj isSecond]
  · obtain ⟨leftPlace, rfl⟩ := Array.getElem?_eq_some_iff.mp isFirst
    obtain ⟨rightPlace, rfl⟩ := Array.getElem?_eq_some_iff.mp isSecond
    exact List.pairwise_iff_getElem.mp sorted left right leftPlace rightPlace before

/-- Halving keeps the smaller keys below the range and the others above it. -/
theorem lowerBound_splits (sorted : IsSorted entries.toList) (low high : Nat) (inRange : low ≤ high)
    (inArray : high ≤ entries.size)
    (below : ∀ place entry, place < low → entries[place]? = some entry → entry.1 < target)
    (above : ∀ place entry, high ≤ place → entries[place]? = some entry → target ≤ entry.1) :
    (∀ place entry, place < lowerBound entries target low high → entries[place]? = some entry →
      entry.1 < target) ∧
    ∀ place entry, lowerBound entries target low high ≤ place → entries[place]? = some entry →
      target ≤ entry.1 := by
  induction low, high using lowerBound.induct entries target with
  | case1 low high isRange middle entry found isBelow inductionHypothesis =>
      unfold lowerBound
      simp only [isRange, if_true]
      rw [show entries[(low + high) / 2]? = some entry from found]
      simp only [isBelow, if_true]
      refine inductionHypothesis (by omega) inArray ?_ above
      intro place other isLower isOther
      exact lt_of_le_of_lt (key_le_of_le sorted isOther found (by omega)) isBelow
  | case2 low high isRange middle entry found notBelow inductionHypothesis =>
      unfold lowerBound
      simp only [isRange, if_true]
      rw [show entries[(low + high) / 2]? = some entry from found]
      simp only [notBelow, if_false]
      refine inductionHypothesis (by omega) (by omega) below ?_
      intro place other isHigher isOther
      exact le_trans (le_of_not_gt notBelow) (key_le_of_le sorted found isOther isHigher)
  | case3 low high isRange middle missing =>
      exact absurd (Array.getElem?_eq_none_iff.mp missing) (by omega)
  | case4 low high noRange =>
      unfold lowerBound
      simp only [noRange, if_false]
      exact ⟨below, fun place entry isHigher => above place entry (by omega)⟩

/-- The lower bound cuts a sorted index into the entries below a text and the others. -/
theorem lowerBound_spec (sorted : IsSorted entries.toList) (target : String) :
    (∀ entry ∈ entries.toList.take (lowerBound entries target 0 entries.size),
      entry.1 < target) ∧
    ∀ entry ∈ entries.toList.drop (lowerBound entries target 0 entries.size),
      target ≤ entry.1 := by
  obtain ⟨below, above⟩ := @lowerBound_splits _ entries target sorted 0 entries.size
    (Nat.zero_le _) (Nat.le_refl _) (fun _ _ less _ => absurd less (Nat.not_lt_zero _))
    (fun place entry behind isEntry =>
      absurd (Array.getElem?_eq_some_iff.mp isEntry).1 (Nat.not_lt_of_le behind))
  have found : ∀ place (isPlace : place < entries.toList.length),
      entries[place]? = some entries.toList[place] := fun place isPlace => by
    rw [← Array.getElem?_toList, List.getElem?_eq_getElem isPlace]
  constructor
  · intro entry isLower
    obtain ⟨place, isPlace, rfl⟩ := List.mem_take_iff_getElem.mp isLower
    exact below place _ (by omega) (found place (by omega))
  · intro entry isHigher
    obtain ⟨place, isPlace, rfl⟩ := List.mem_drop_iff_getElem.mp isHigher
    exact above _ _ (Nat.le_add_right _ place) (found _ (by omega))

end LowerBound

section StartingWith

/-- A key starts with a text that is a prefix of it. -/
theorem startsWith_iff {start key : String} :
    startsWith start key = true ↔ start.toList <+: key.toList :=
  List.isPrefixOf_iff_prefix

/-- A key does not stand in front of what it starts with. -/
theorem le_of_startsWith {start key : String} (starts : start.toList <+: key.toList) :
    start ≤ key := by
  intro smaller
  exact starts.le smaller

/-- What lies between a text and one that it starts is started by it. -/
theorem prefix_of_between {start left right : List Char}
    (behind : ¬ List.Lex (· < ·) left start) (before : ¬ List.Lex (· < ·) right left)
    (starts : start <+: right) : start <+: left := by
  induction start generalizing left right with
  | nil => exact List.nil_prefix
  | cons letter start inductionHypothesis =>
      obtain ⟨rest, rfl⟩ := starts
      rw [List.cons_append] at before
      cases left with
      | nil => exact absurd List.Lex.nil behind
      | cons other left =>
          rw [List.not_cons_lex_cons_iff] at behind before
          have notSmaller : ¬ other < letter := by tauto
          have notLarger : ¬ letter < other := by tauto
          obtain rfl : letter = other :=
            le_antisymm (le_of_not_gt notSmaller) (le_of_not_gt notLarger)
          rw [List.cons_prefix_cons]
          exact ⟨rfl, inductionHypothesis (by tauto) (by tauto) (List.prefix_append _ _)⟩

/-- A key between a text and a key that it starts is started by it. -/
theorem startsWith_of_between {start left right : String} (behind : start ≤ left)
    (before : left ≤ right) (starts : start.toList <+: right.toList) :
    start.toList <+: left.toList :=
  prefix_of_between (fun smaller => behind smaller) (fun smaller => before smaller) starts

/-- Where a hit has only hits in front of it, nothing behind the first miss is a hit. -/
theorem miss_of_mem_dropWhile {α : Type} {holds : α → Bool} {items : List α}
    (closed : items.Pairwise fun left right => holds right = true → holds left = true) {item : α}
    (isBehind : item ∈ items.dropWhile holds) : holds item = false := by
  induction items with
  | nil => exact absurd isBehind List.not_mem_nil
  | cons first rest inductionHypothesis =>
      rw [List.pairwise_cons] at closed
      cases here : holds first with
      | true =>
          rw [List.dropWhile_cons_of_pos here] at isBehind
          exact inductionHypothesis closed.2 isBehind
      | false =>
          rw [List.dropWhile_cons_of_neg (by simp [here])] at isBehind
          rcases List.mem_cons.mp isBehind with rfl | isRest
          · exact here
          · by_contra hit
            have isHit := closed.1 item isRest (by simpa using hit)
            simp [here] at isHit

/-- The entries that a text starts are one block of a sorted index: those in front of the block
have smaller keys, and the text starts none of those behind it. -/
theorem startingWith_splits {Position : Type} {index : NameIndex Position}
    (sorted : IsSorted index.entries.toList) (start : String) :
    ∃ behind, index.entries.toList =
        index.entries.toList.take (lowerBound index.entries start 0 index.entries.size) ++
          (index.startingWith start ++ behind) ∧
      (∀ entry ∈ index.entries.toList.take (lowerBound index.entries start 0 index.entries.size),
        entry.1 < start) ∧
      (∀ entry ∈ index.startingWith start, startsWith start entry.1 = true) ∧
      ∀ entry ∈ behind, startsWith start entry.1 = false := by
  obtain ⟨below, above⟩ := lowerBound_spec sorted start
  unfold startingWith
  dsimp only
  generalize lowerBound index.entries start 0 index.entries.size = first at below above ⊢
  have closed : (index.entries.toList.drop first).Pairwise fun left right =>
      startsWith start right.1 = true → startsWith start left.1 = true := by
    have sortedAbove := List.Pairwise.sublist (List.drop_sublist first _) sorted
    refine sortedAbove.imp_of_mem fun {left right} isLeft _ before starts => ?_
    rw [startsWith_iff] at starts ⊢
    exact startsWith_of_between (above left isLeft) before starts
  refine ⟨(index.entries.toList.drop first).dropWhile fun entry => startsWith start entry.1,
    ?_, below, ?_, fun entry => miss_of_mem_dropWhile closed⟩
  · rw [List.takeWhile_append_dropWhile, List.take_append_drop]
  · intro entry isHit
    exact @List.mem_takeWhile_imp (NameEntry Position) (fun entry => startsWith start entry.1)
      _ _ isHit

/-- The entries that a text starts are found in order. -/
theorem startingWith_eq_filter {Position : Type} {index : NameIndex Position}
    (sorted : IsSorted index.entries.toList) (start : String) :
    index.startingWith start =
      index.entries.toList.filter fun entry => startsWith start entry.1 := by
  obtain ⟨behind, splits, below, hits, misses⟩ := startingWith_splits sorted start
  have noneBelow : ∀ entry ∈ index.entries.toList.take
      (lowerBound index.entries start 0 index.entries.size), ¬ startsWith start entry.1 = true := by
    intro entry isLower starts
    exact absurd (le_of_startsWith (startsWith_iff.mp starts)) (not_le_of_gt (below entry isLower))
  have noneBehind : ∀ entry ∈ behind, ¬ startsWith start entry.1 = true := by
    intro entry isBehind
    simp [misses entry isBehind]
  conv_rhs => rw [splits]
  rw [List.filter_append, List.filter_append, List.filter_eq_nil_iff.mpr noneBelow,
    List.filter_eq_nil_iff.mpr noneBehind, List.filter_eq_self.mpr hits, List.nil_append,
    List.append_nil]

/-- Looking a text up agrees with a scan of all entries: what is found are the entries whose
keys it starts, each as often as it was given, in ascending order. Nothing is lost in front of
the place where the binary search starts the reading, or behind the last entry that is read. -/
theorem startingWith_scans (entries : List (NameEntry Int)) (start : String) :
    ((ofEntries entries).startingWith start).Perm
        (entries.filter fun entry => start.toList <+: entry.1.toList) ∧
      ((ofEntries entries).startingWith start).Pairwise
        (fun left right => toLex left ≤ toLex right) ∧
      ∃ below behind, (ofEntries entries).entries.toList =
          below ++ ((ofEntries entries).startingWith start ++ behind) ∧
        below = (ofEntries entries).entries.toList.take
          (lowerBound (ofEntries entries).entries start 0 (ofEntries entries).size) ∧
        (∀ entry ∈ below, entry.1 < start) ∧
        ∀ entry ∈ behind, ¬ start.toList <+: entry.1.toList := by
  have sorted := isSorted_ofEntries entries
  have found := startingWith_eq_filter sorted start
  have starts : (fun entry : NameEntry Int => startsWith start entry.1) =
      fun entry => decide (start.toList <+: entry.1.toList) := by
    ext entry
    rw [Bool.eq_iff_iff, startsWith_iff, decide_eq_true_iff]
  obtain ⟨behind, splits, below, -, misses⟩ := startingWith_splits sorted start
  refine ⟨?_, ?_, _, behind, splits, rfl, below, fun entry isBehind isHit => ?_⟩
  · rw [found, starts]
    exact (ofEntries_perm entries).filter _
  · rw [found]
    exact (ascending_ofEntries entries).filter _
  · have isFound := startsWith_iff.mpr isHit
    simp [misses entry isBehind] at isFound

end StartingWith

end DocAtlas.NameIndex
