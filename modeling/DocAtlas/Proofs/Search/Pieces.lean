import DocAtlas.Manifest
import DocAtlas.Proofs.Search.Ranking
import DocAtlas.Proofs.Text.LowerCase

/-!
# Searching for a piece of a name

Somebody who types a piece of a name finds what has the name, as far as lower-casing goes:
the names are lowered as wholes and the piece on its own. Where no capital sigma of the
piece changes its form by that, the lowered piece stands in the lowered name, and every
record with the name is found.
-/

namespace DocAtlas

/-- A query is searched for without the blanks around it and in lower case. -/
theorem SearchIndex.toList_normalizeQuery (piece : List Char) :
    (normalizeQuery (String.ofList piece)).toList = Text.lowerChars (Text.trimChars piece) := by
  simp [normalizeQuery, Text.lower, Text.trim]

/-- A query that is not blank is answered by a ranking. -/
theorem SearchIndex.exists_isRanking (records : List SearchRecord) {text : String}
    (given : normalizeQuery text ≠ "") :
    ∃ hits, search ⟨records, .ofRecords records⟩ text none = .ok hits ∧
      IsRanking records (normalizeQuery text) hits := by
  obtain ⟨strong, after, -, leads, weaker, -, isRanking, -⟩ :=
    runs_isRanking records (normalizeQuery text)
  refine ⟨ranked after, ?_, isRanking⟩
  unfold search hits
  dsimp only
  rw [if_neg given, leads, Checked.ok_bind, weaker]
  rfl

/-- A ranking lists every record with a key in which the query stands in one piece, at a tier
that says so. -/
theorem SearchIndex.IsRanking.finds_inside {records : List SearchRecord} {query : String}
    {hits : List Hit} (isRanking : IsRanking records query hits) {place : Nat}
    {record : SearchRecord} (isRecord : records[place]? = some record) {key : String}
    (isKey : key ∈ record.keys) (stands : query.toList <:+: (Text.lower key).toList) :
    ∃ hit ∈ hits, hit.position = place ∧ hit.record = record ∧
      hit.tier.rank ≤ Tier.inside.rank := by
  obtain ⟨hit, isHit, isPosition⟩ :=
    (isRanking.covers place).mpr ⟨record, isRecord, key, isKey, stands.sublist⟩
  obtain ⟨other, samePlace, isFound, -⟩ := isRanking.found hit isHit
  obtain rfl : place = other := by
    rw [isPosition] at samePlace
    exact_mod_cast samePlace
  have sameRecord : hit.record = record := Option.some.inj (isFound.symm.trans isRecord)
  refine ⟨hit, isHit, isPosition, sameRecord, ?_⟩
  cases found : Tier.of? query (Text.lower key) with
  | none => exact absurd stands.sublist (Tier.of?_eq_none_iff.mp found)
  | some tier =>
      have isBest := Tier.of?_isBest found
      have better := isRanking.least hit isHit key (sameRecord ▸ isKey) tier isBest
      have noWorse : hit.tier.rank ≤ tier.rank := Prod.Lex.monotone_fst _ _ better
      refine noWorse.trans (Nat.le_of_not_lt fun weaker => ?_)
      exact isBest.least .inside weaker stands

/-- A query that is a subsequence of no key finds nothing. -/
theorem SearchIndex.search_eq_nil {records : List SearchRecord} {text : String}
    (given : normalizeQuery text ≠ "")
    (misses : ∀ record ∈ records, ∀ key ∈ record.keys,
      ¬ (normalizeQuery text).toList.Sublist (Text.lower key).toList) :
    search ⟨records, .ofRecords records⟩ text none = .ok [] := by
  obtain ⟨hits, answer, isRanking⟩ := exists_isRanking records given
  suffices noHits : hits = [] by rw [answer, noHits]
  refine List.eq_nil_iff_forall_not_mem.mpr fun hit isHit => ?_
  obtain ⟨place, -, isRecord, ⟨key, isKey, isLower⟩, isBest⟩ := isRanking.found hit isHit
  exact misses hit.record (List.mem_of_getElem? isRecord) key isKey
    (isLower ▸ isBest.stands.sublist)

/-- A search for a piece of a name finds everything with the name. The piece may be any
stretch of a key in its spelling that is not blank and keeps its sigmas; every record with the
key has a hit, as a whole, at the start or inside of a key. -/
theorem Graph.search_finds_piece (graph : Graph) (classes : List EntityId) {place : Nat}
    {record : SearchRecord} (isRecord : (graph.searchIndex classes).records[place]? = some record)
    {key : String} (isKey : key ∈ record.keys) {before piece after : List Char}
    (stands : key.toList = before ++ piece ++ after)
    (visible : ∃ c ∈ piece, Text.isBlank c = false) (keeps : Text.KeepsSigmas before piece after) :
    ∃ hits, (graph.searchIndex classes).search (String.ofList piece) none = .ok hits ∧
      ∃ hit ∈ hits, hit.position = place ∧ hit.record = record ∧
        hit.tier.rank ≤ Tier.inside.rank := by
  have query := SearchIndex.toList_normalizeQuery piece
  have given : SearchIndex.normalizeQuery (String.ofList piece) ≠ "" := by
    intro isBlank
    rw [isBlank] at query
    exact Text.lowerChars_ne_nil (Text.trimChars_ne_nil visible) query.symm
  obtain ⟨hits, answer, isRanking⟩ :=
    SearchIndex.exists_isRanking (graph.searchIndex classes).records given
  refine ⟨hits, answer, isRanking.finds_inside isRecord isKey ?_⟩
  rw [query, Text.lower, String.toList_ofList, stands]
  exact (Text.lowerChars_trimChars_infix piece).trans (Text.lowerChars_infix keeps)

/-- A class whose name has a capital sigma inside. -/
def lysis : Graph :=
  ⟨#[{ name := .text "ΛΥΣΗ", fullName := "ΛΥΣΗ", kind := .classDef,
       documentsSelf := .bool true }]⟩

/-- The index of the example has the record of its one class. -/
theorem records_lysis :
    (lysis.searchIndex [0]).records = [.entity "class" "ΛΥΣΗ" (.text "")] := by
  unfold Graph.searchIndex
  dsimp only
  cbv

/-- The rule for sigmas takes the letters next to the sigma for letters. -/
theorem meetsCased_lysis {c : Char} (isLetter : c = 'Υ' ∨ c = 'Η') (rest : List Char) :
    Text.LowerCase.meetsCased (c :: rest) = true := by
  have notIgnorable : Text.LowerCase.isIgnorable c = false := by
    rw [Text.LowerCase.isIgnorable, Text.inRanges_eq]
    rcases isLetter with rfl | rfl <;> decide +kernel
  have isCased : Text.LowerCase.isCased c = true := by
    rw [Text.LowerCase.isCased, Text.inRanges_eq]
    rcases isLetter with rfl | rfl <;> decide +kernel
  unfold Text.LowerCase.meetsCased
  rw [List.dropWhile_cons_of_neg (by simp [notIgnorable])]
  exact isCased

/-- Inside of the name the sigma is lowered in one way, and at the end of its first three
letters in another. -/
theorem lowerChars_lysis :
    Text.lowerChars ['Λ', 'Υ', 'Σ', 'Η'] = ['λ', 'υ', 'σ', 'η'] ∧
      Text.lowerChars ['Λ', 'Υ', 'Σ'] = ['λ', 'υ', 'ς'] := by
  have alone : ∀ pair ∈ [('Λ', 'λ'), ('Υ', 'υ'), ('Η', 'η')],
      Text.LowerCase.lowerAlone pair.1 = [pair.2] := by
    decide +kernel
  simp only [List.forall_mem_cons] at alone
  obtain ⟨lambda, upsilon, eta, -⟩ := alone
  simp only [Text.lowerChars, Text.LowerCase.lowerAfter, Text.LowerCase.lowerBetween,
    Text.LowerCase.isFinalSigma, meetsCased_lysis (.inl rfl), meetsCased_lysis (.inr rfl),
    lambda, upsilon, eta]
  decide

/-- The last three letters find the class: their sigma stays inside. -/
theorem lysis_search_finds_piece :
    (lysis.searchIndex [0]).records[0]? = some (.entity "class" "ΛΥΣΗ" (.text "")) ∧
      "ΛΥΣΗ".toList = ['Λ'] ++ ['Υ', 'Σ', 'Η'] ++ [] ∧
      Text.KeepsSigmas ['Λ'] ['Υ', 'Σ', 'Η'] [] ∧
      ∃ hits, (lysis.searchIndex [0]).search (String.ofList ['Υ', 'Σ', 'Η']) none = .ok hits ∧
        ∃ hit ∈ hits, hit.position = (0 : Nat) ∧
          hit.record = .entity "class" "ΛΥΣΗ" (.text "") ∧
          hit.tier.rank ≤ Tier.inside.rank := by
  have isRecord : (lysis.searchIndex [0]).records[0]? =
      some (.entity "class" "ΛΥΣΗ" (.text "")) := by
    rw [records_lysis]
    rfl
  have keeps : Text.KeepsSigmas ['Λ'] ['Υ', 'Σ', 'Η'] [] := by
    intro front back split
    have isSigma : Text.capitalSigma = 'Σ' := by decide
    have isBehind : back = ['Η'] := by
      rw [isSigma] at split
      rcases front with _ | ⟨first, _ | ⟨second, _ | ⟨third, front⟩⟩⟩ <;> simp_all
    unfold Text.LowerCase.isFinalSigma
    rw [isBehind, List.append_nil, meetsCased_lysis (.inr rfl), Bool.not_true, Bool.and_false,
      Bool.and_false]
  exact ⟨isRecord, rfl, keeps, lysis.search_finds_piece [0] isRecord
    List.mem_cons_self rfl ⟨'Η', by decide, by decide⟩ keeps⟩

/-- The first three letters do not find the class: the sigma at their end is final. -/
theorem lysis_search_misses_piece :
    (lysis.searchIndex [0]).records[0]? = some (.entity "class" "ΛΥΣΗ" (.text "")) ∧
      "ΛΥΣΗ".toList = [] ++ ['Λ', 'Υ', 'Σ'] ++ ['Η'] ∧
      (lysis.searchIndex [0]).search (String.ofList ['Λ', 'Υ', 'Σ']) none = .ok [] := by
  have isRecord : (lysis.searchIndex [0]).records[0]? =
      some (.entity "class" "ΛΥΣΗ" (.text "")) := by
    rw [records_lysis]
    rfl
  have query : (SearchIndex.normalizeQuery (String.ofList ['Λ', 'Υ', 'Σ'])).toList =
      ['λ', 'υ', 'ς'] := by
    have untrimmed : Text.trimChars ['Λ', 'Υ', 'Σ'] = ['Λ', 'Υ', 'Σ'] := by decide
    rw [SearchIndex.toList_normalizeQuery, untrimmed, lowerChars_lysis.2]
  have name : (Text.lower "ΛΥΣΗ").toList = ['λ', 'υ', 'σ', 'η'] := by
    rw [Text.lower, String.toList_ofList]
    exact lowerChars_lysis.1
  refine ⟨isRecord, rfl, SearchIndex.search_eq_nil ?_ ?_⟩
  · intro isEmpty
    rw [isEmpty] at query
    exact absurd query (by decide)
  · intro record isFound key isKey
    have isOnly : record ∈ (lysis.searchIndex [0]).records := isFound
    rw [records_lysis, List.mem_singleton] at isOnly
    subst isOnly
    rw [List.mem_singleton.mp isKey, query, name]
    decide

end DocAtlas
