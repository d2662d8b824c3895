import DocAtlas.Proofs.Search.Tier

/-!
# Spelling a query in a key

A query is scattered over a key when the key has strictly increasing positions that spell
it. The match looks for one character after the other in what is left of the key and never
turns back; it finds such positions whenever there are some, also where characters repeat.
So the four tiers are nested, and a key that matches a query matches whatever can be spelled
in the query.
-/

namespace DocAtlas.Tier

/-- What is left of a key behind the first occurrence of a character. -/
def advance (key : List Char) (c : Char) : Option (List Char) :=
  (key.dropWhile (· != c)).tail?

/-- Positions of a key spell a query when they increase strictly and the characters of the
query stand there. -/
structure Spells (query key : List Char) (positions : List (Fin key.length)) : Prop where
  increasing : positions.Pairwise (· < ·)
  letters : positions.map key.get = query

@[simp] theorem advance_cons_self (key : List Char) (c : Char) :
    advance (c :: key) c = some key := by
  simp [advance]

/-- A character that does not stand next is looked for behind. -/
theorem advance_cons_of_ne {k c : Char} (differs : k ≠ c) (key : List Char) :
    advance (k :: key) c = advance key c := by
  simp [advance, differs]

/-- The first character of a query is looked for in the key, and the others in what is left
of it. -/
theorem isScattered_cons (c : Char) (query key : List Char) :
    isScattered (c :: query) key = (advance key c).any (isScattered query) := by
  induction key with
  | nil => rfl
  | cons k key inductionHypothesis =>
      by_cases same : k = c
      · subst same
        simp [isScattered]
      · have differs : ¬ c = k := fun equal => same equal.symm
        simp [isScattered, differs, advance_cons_of_ne same, inductionHypothesis]

/-- The match goes through the key once, from the occurrence of one character on to that of
the next. -/
theorem isScattered_eq_foldlM (query key : List Char) :
    isScattered query key = (query.foldlM advance key).isSome := by
  induction query generalizing key with
  | nil => simp [isScattered]
  | cons c query inductionHypothesis =>
      rw [isScattered_cons, List.foldlM_cons]
      cases advance key c with
      | none => rfl
      | some rest => exact inductionHypothesis rest

/-- A query is a subsequence of a key when some positions spell it. -/
theorem sublist_iff_spells {query key : List Char} :
    query.Sublist key ↔ ∃ positions, Spells query key positions := by
  constructor
  · intro isSubsequence
    obtain ⟨positions, letters, increasing⟩ := List.sublist_eq_map_getElem isSubsequence
    exact ⟨positions, increasing, letters.symm⟩
  · rintro ⟨positions, increasing, rfl⟩
    exact List.map_getElem_sublist increasing

/-- The match is complete and the tiers are nested. A match that goes through the key once
succeeds exactly when some strictly increasing positions spell the query. An equal key starts
with the query, what starts with it has it inside, and what has it inside has it scattered. So
a key has no tier exactly when no positions spell the query, and otherwise the best tier that
holds; and a key with a tier for a longer query has one for every query spelled in that. -/
theorem match_complete_and_nested (query key : String) :
    isScattered query.toList key.toList = (query.toList.foldlM advance key.toList).isSome ∧
      (isScattered query.toList key.toList = true ↔
        ∃ positions, Spells query.toList key.toList positions) ∧
      (exact.Stands query key → leading.Stands query key) ∧
      (leading.Stands query key → inside.Stands query key) ∧
      (inside.Stands query key → scattered.Stands query key) ∧
      (of? query key = none ↔ ¬ ∃ positions, Spells query.toList key.toList positions) ∧
      (∀ tier, of? query key = some tier ↔ tier.IsBest query key) ∧
      ∀ longer : String, (∃ positions, Spells query.toList longer.toList positions) →
        (of? longer key).isSome = true → (of? query key).isSome = true := by
  refine ⟨isScattered_eq_foldlM _ _, ?_, ?_, ?_, ?_, ?_, fun tier => of?_eq_some_iff, ?_⟩
  · rw [isScattered_iff, sublist_iff_spells]
  · exact fun stands => stands.weaken (by decide)
  · exact fun stands => stands.weaken (by decide)
  · exact fun stands => stands.weaken (by decide)
  · rw [of?_eq_none_iff, sublist_iff_spells]
  · intro longer spelled matched
    have inLonger : query.toList.Sublist longer.toList := sublist_iff_spells.mpr spelled
    obtain ⟨tier, found⟩ := Option.isSome_iff_exists.mp matched
    have inKey : longer.toList.Sublist key.toList := (of?_isBest found).stands.sublist
    by_contra unmatched
    exact of?_eq_none_iff.mp (Option.not_isSome_iff_eq_none.mp unmatched) (inLonger.trans inKey)

/-- Of two letters that repeat, each is taken where it comes first behind the last one. -/
example : "aab".toList.foldlM advance "abaxbb".toList = some ['b'] := by
  decide

end DocAtlas.Tier
