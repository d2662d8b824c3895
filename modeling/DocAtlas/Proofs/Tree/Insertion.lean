import DocAtlas.Tree.FileTrie
import Mathlib.Data.List.Nodup

/-!
# Insertion into file tries

The pages of a trie, by their paths, are what its theory is about. Tries that grow from
texts are proper: every directory has one entry for each segment, and none is empty. An
insertion into a proper trie adds one page or changes nothing at all. It makes directories
before it looks for collisions, but behind the first directory that it makes there is
nothing to collide with.
-/

namespace DocAtlas.FileTrie

/-- A trie whose segments and addresses are texts, with one entry for each segment and no
empty directory. -/
inductive IsProper : FileTrie → Prop where
  | page (url : String) : IsProper (.page (.text url))
  | directory {entries : Entries} (filled : entries ≠ [])
      (named : ∀ entry ∈ entries, ∃ name, entry.1 = .text name)
      (distinct : (entries.map Prod.fst).Nodup)
      (below : ∀ entry ∈ entries, IsProper entry.2) : IsProper (.directory entries)

/-- The entries of a proper directory, which at the top of a trie may be empty. -/
structure AreProper (entries : Entries) : Prop where
  named : ∀ entry ∈ entries, ∃ name, entry.1 = .text name
  distinct : (entries.map Prod.fst).Nodup
  below : ∀ entry ∈ entries, IsProper entry.2

/-- A directory is proper when it is not empty and its entries are proper. -/
theorem isProper_directory_iff {entries : Entries} :
    IsProper (.directory entries) ↔ entries ≠ [] ∧ AreProper entries := by
  constructor
  · rintro (_ | ⟨filled, named, distinct, below⟩)
    exact ⟨filled, named, distinct, below⟩
  · rintro ⟨filled, named, distinct, below⟩
    exact .directory filled named distinct below

/-- An empty list of entries is proper. -/
theorem areProper_nil : AreProper [] where
  named := by simp
  distinct := List.nodup_nil
  below := by simp

@[simp] theorem same_text (left right : String) :
    Value.same (.text left) (.text right) = (left == right) := by
  simp [Value.same]

/-- What an entry counts for: a page without address counts as absent. -/
def present? : FileTrie → Option FileTrie
  | .page .null => none
  | trie => some trie

/-- The entry of a segment is the first that has it, unless that is an absent page. -/
theorem entry?_eq (segment : Value) (entries : Entries) :
    entry? segment entries =
      (entries.find? fun entry => Value.same entry.1 segment).bind fun entry =>
        present? entry.2 := by
  unfold entry? present?
  cases entries.find? fun entry => Value.same entry.1 segment with
  | none => rfl
  | some entry =>
      obtain ⟨key, trie⟩ := entry
      simp only [Option.bind_some]
      split <;> simp_all

/-- A proper trie is present. -/
theorem IsProper.present?_eq {trie : FileTrie} (proper : trie.IsProper) :
    present? trie = some trie := by
  cases proper <;> rfl

/-- Setting the entry that is there already changes nothing. -/
theorem setEntry_of_entry? {segment : Value} {trie : FileTrie} {entries : Entries}
    (isThere : entry? segment entries = some trie) :
    setEntry segment trie entries = entries := by
  induction entries with
  | nil => cases isThere
  | cons entry rest inductionHypothesis =>
      rw [entry?_eq, List.find?_cons] at isThere
      unfold setEntry
      by_cases same : Value.same entry.1 segment = true
      · simp only [same, Option.bind_some] at isThere
        have isHere : entry.2 = trie := by
          unfold present? at isThere
          split at isThere <;> simp_all
        rw [if_pos same, ← isHere]
      · simp only [same] at isThere
        rw [if_neg same, inductionHypothesis (by rw [entry?_eq]; exact isThere)]

/-- The segments of a directory after an entry is set. -/
theorem mem_keys_setEntry {name : String} {trie : FileTrie} {entries : Entries}
    (named : ∀ entry ∈ entries, ∃ name, entry.1 = .text name) {key : Value} :
    key ∈ (setEntry (.text name) trie entries).map Prod.fst ↔
      key = .text name ∨ key ∈ entries.map Prod.fst := by
  induction entries with
  | nil => simp [setEntry]
  | cons entry rest inductionHypothesis =>
      obtain ⟨⟨other, isText⟩, restNamed⟩ := List.forall_mem_cons.mp named
      unfold setEntry
      by_cases same : other = name
      · simp [isText, same]
      · have further := inductionHypothesis restNamed
        simp only [isText, same_text, beq_iff_eq, same, if_false, List.map_cons, List.mem_cons,
          further]
        tauto

/-- The entries of a directory after one is set: it is there in the place of any other of
its segment. -/
theorem mem_setEntry {name : String} {trie : FileTrie} {entries : Entries}
    (named : ∀ entry ∈ entries, ∃ name, entry.1 = .text name)
    (distinct : (entries.map Prod.fst).Nodup) {key : Value} {other : FileTrie} :
    (key, other) ∈ setEntry (.text name) trie entries ↔
      (key = .text name ∧ other = trie) ∨ (key ≠ .text name ∧ (key, other) ∈ entries) := by
  induction entries with
  | nil => simp [setEntry]
  | cons entry rest inductionHypothesis =>
      obtain ⟨⟨segment, isText⟩, restNamed⟩ := List.forall_mem_cons.mp named
      rw [List.map_cons, List.nodup_cons] at distinct
      obtain ⟨first, found⟩ := entry
      dsimp only at isText distinct
      subst isText
      unfold setEntry
      by_cases same : segment = name
      · subst same
        simp only [same_text, beq_self_eq_true, if_true, List.mem_cons, Prod.mk.injEq]
        constructor
        · rintro (isHere | isRest)
          · exact .inl isHere
          · have isKey : key ∈ rest.map Prod.fst := List.mem_map_of_mem isRest
            exact .inr ⟨fun equal => distinct.1 (equal ▸ isKey), .inr isRest⟩
        · rintro (isHere | ⟨differs, ⟨equal, -⟩ | isRest⟩)
          · exact .inl isHere
          · exact absurd equal differs
          · exact .inr isRest
      · simp only [same_text, beq_iff_eq, same, if_false, List.mem_cons, Prod.mk.injEq,
          inductionHypothesis restNamed distinct.2]
        constructor
        · rintro (⟨rfl, rfl⟩ | isHere | ⟨differs, isRest⟩)
          · exact .inr ⟨by simpa using same, .inl ⟨rfl, rfl⟩⟩
          · exact .inl isHere
          · exact .inr ⟨differs, .inr isRest⟩
        · rintro (isHere | ⟨differs, isFirst | isRest⟩)
          · exact .inr (.inl isHere)
          · exact .inl isFirst
          · exact .inr (.inr ⟨differs, isRest⟩)

/-- Setting an entry repeats no segment. -/
theorem nodup_keys_setEntry {name : String} {trie : FileTrie} {entries : Entries}
    (named : ∀ entry ∈ entries, ∃ name, entry.1 = .text name)
    (distinct : (entries.map Prod.fst).Nodup) :
    ((setEntry (.text name) trie entries).map Prod.fst).Nodup := by
  induction entries with
  | nil => simp [setEntry]
  | cons entry rest inductionHypothesis =>
      obtain ⟨⟨segment, isText⟩, restNamed⟩ := List.forall_mem_cons.mp named
      rw [List.map_cons, List.nodup_cons] at distinct
      unfold setEntry
      by_cases same : segment = name
      · simpa [isText, same] using distinct
      · simp only [isText, same_text, beq_iff_eq, same, if_false, List.map_cons, List.nodup_cons]
        rw [mem_keys_setEntry restNamed, ← isText]
        refine ⟨?_, inductionHypothesis restNamed distinct.2⟩
        rintro (equal | isRest)
        · rw [isText] at equal
          exact same (Value.text.inj equal)
        · exact distinct.1 isRest

namespace AreProper

variable {entries : Entries} (proper : AreProper entries)
include proper

/-- In a proper directory the entry of a segment is the one that has it. -/
theorem entry?_eq_some_iff {name : String} {trie : FileTrie} :
    entry? (.text name) entries = some trie ↔ (.text name, trie) ∈ entries := by
  rw [entry?_eq]
  cases found : entries.find? fun entry => Value.same entry.1 (.text name) with
  | none =>
      simp only [Option.bind_none, reduceCtorEq, false_iff]
      intro isEntry
      have differs := List.find?_eq_none.mp found _ isEntry
      simp at differs
  | some entry =>
      obtain ⟨key, other⟩ := entry
      have isEntry := List.mem_of_find?_eq_some found
      have same := List.find?_some found
      obtain ⟨segment, isText⟩ := proper.named _ isEntry
      dsimp only at isText same
      subst isText
      obtain rfl : segment = name := by simpa using same
      rw [Option.bind_some, (proper.below _ isEntry).present?_eq, Option.some.injEq]
      constructor
      · rintro rfl
        exact isEntry
      · intro isTrie
        have equal := List.inj_on_of_nodup_map proper.distinct isEntry isTrie rfl
        exact (Prod.mk.inj equal).2

/-- An entry of proper ones is proper. -/
theorem isProper_of_entry? {name : String} {trie : FileTrie}
    (found : entry? (.text name) entries = some trie) : trie.IsProper :=
  proper.below _ (proper.entry?_eq_some_iff.mp found)

/-- Setting a proper entry keeps entries proper. -/
theorem setEntry (name : String) {trie : FileTrie} (isProper : trie.IsProper) :
    AreProper (setEntry (.text name) trie entries) where
  named := by
    intro entry isEntry
    rcases (mem_keys_setEntry proper.named).mp (List.mem_map_of_mem isEntry) with isNew | isKey
    · exact ⟨name, isNew⟩
    · obtain ⟨other, isOther, same⟩ := List.mem_map.mp isKey
      rw [← same]
      exact proper.named other isOther
  distinct := nodup_keys_setEntry proper.named proper.distinct
  below := by
    rintro ⟨key, other⟩ isEntry
    rcases (mem_setEntry proper.named proper.distinct).mp isEntry with ⟨-, rfl⟩ | ⟨-, isOld⟩
    · exact isProper
    · exact proper.below _ isOld

/-- An entry that is set is seen at its segment and nowhere else. -/
theorem entry?_setEntry (name other : String) {trie : FileTrie} (isProper : trie.IsProper) :
    entry? (.text other) (FileTrie.setEntry (.text name) trie entries) =
      if other = name then some trie else entry? (.text other) entries := by
  ext found
  rw [(proper.setEntry name isProper).entry?_eq_some_iff, mem_setEntry proper.named proper.distinct]
  by_cases same : other = name
  · subst same
    simp [eq_comm]
  · simp [same, proper.entry?_eq_some_iff]

end AreProper

/-- The address of the page at the end of a path. -/
def page? : List String → FileTrie → Option String
  | [], .page (.text url) => some url
  | [], _ => none
  | _ :: _, .page _ => none
  | segment :: rest, .directory entries =>
    match entry? (.text segment) entries with
    | some trie => page? rest trie
    | none => none

@[simp] theorem page?_nil_directory (entries : Entries) : page? [] (.directory entries) = none :=
  rfl

@[simp] theorem page?_cons_page (segment : String) (rest : List String) (url : Value) :
    page? (segment :: rest) (.page url) = none := rfl

/-- An empty directory has no pages. -/
@[simp] theorem page?_empty (path : List String) : page? path (.directory []) = none := by
  cases path <;> rfl

/-- A path through a directory goes on at the entry of its first segment. -/
theorem page?_cons_directory {segment : String} {entries : Entries} {found : Option FileTrie}
    (isFound : entry? (.text segment) entries = found) (rest : List String) :
    page? (segment :: rest) (.directory entries) = found.bind (page? rest) := by
  rw [page?, isFound]
  cases found <;> rfl

/-- A path through a directory leads to what the entry of its first segment has. -/
theorem page?_below {segment : String} {entries : Entries} {trie : FileTrie}
    (found : entry? (.text segment) entries = some trie) (path : List String) :
    page? (segment :: path) (.directory entries) = page? path trie := by
  rw [page?_cons_directory found, Option.bind_some]

/-- The pages of a directory after an entry is set. -/
theorem AreProper.page?_setEntry {entries : Entries} (proper : AreProper entries)
    (segment first : String) (others : List String) {trie : FileTrie} (isProper : trie.IsProper) :
    page? (first :: others) (.directory (FileTrie.setEntry (.text segment) trie entries)) =
      if first = segment then page? others trie
      else page? (first :: others) (.directory entries) := by
  rw [page?_cons_directory rfl, page?_cons_directory rfl, proper.entry?_setEntry _ _ isProper]
  by_cases same : first = segment
  · rw [if_pos same, if_pos same, Option.bind_some]
  · rw [if_neg same, if_neg same]

/-- No page stands below another one. -/
theorem eq_of_prefix {left right : List String} {trie : FileTrie}
    (isPage : page? left trie ≠ none) (isOtherPage : page? right trie ≠ none)
    (isPrefix : left <+: right) : left = right := by
  induction left generalizing right trie with
  | nil =>
      cases trie with
      | directory entries => exact absurd rfl isPage
      | page url =>
          cases right with
          | nil => rfl
          | cons segment rest => exact absurd rfl isOtherPage
  | cons segment rest inductionHypothesis =>
      obtain ⟨behind, rfl⟩ := isPrefix
      cases trie with
      | page url => exact absurd rfl isPage
      | directory entries =>
          rw [List.cons_append, page?_cons_directory rfl] at isOtherPage
          rw [page?_cons_directory rfl] at isPage
          cases found : entry? (.text segment) entries with
          | none => simp [found] at isPage
          | some below =>
              rw [found, Option.bind_some] at isPage isOtherPage
              rw [List.cons_append, ← inductionHypothesis isPage isOtherPage ⟨behind, rfl⟩]

/-- A proper trie has a page. -/
theorem IsProper.exists_page {trie : FileTrie} (proper : trie.IsProper) :
    ∃ path, page? path trie ≠ none := by
  induction proper with
  | page url => exact ⟨[], by simp [page?]⟩
  | @directory entries filled named distinct below inductionHypothesis =>
      have areProper : AreProper entries := ⟨named, distinct, below⟩
      obtain ⟨⟨key, found⟩, isEntry⟩ := List.exists_mem_of_ne_nil entries filled
      obtain ⟨name, isText⟩ := named _ isEntry
      dsimp only at isText
      subst isText
      obtain ⟨path, isPage⟩ := inductionHypothesis _ isEntry
      refine ⟨name :: path, ?_⟩
      rw [page?_below (areProper.entry?_eq_some_iff.mpr isEntry)]
      exact isPage

/-- What an insertion at a path makes of proper entries. -/
inductive Inserted (url : String) (path : List String) (entries : Entries) :
    Entries × Except Collision Unit → Prop where
  /-- A page stands on the way. -/
  | fileOnTheWay {depth} (further : depth + 1 < path.length)
      (isPage : page? (path.take (depth + 1)) (.directory entries) ≠ none) :
      Inserted url path entries (entries, .error (.fileOnTheWay depth))
  /-- A page stands further down. -/
  | endsAtDirectory {behind} (further : behind ≠ [])
      (isPage : page? (path ++ behind) (.directory entries) ≠ none) :
      Inserted url path entries (entries, .error .endsAtDirectory)
  /-- A page stands at the end. -/
  | alreadyThere (isPage : page? path (.directory entries) ≠ none) :
      Inserted url path entries (entries, .error .alreadyThere)
  /-- One page more, and all others as they were. -/
  | added {changed} (isFree : page? path (.directory entries) = none) (proper : AreProper changed)
      (pages : ∀ other, page? other (.directory changed) =
        if other = path then some url else page? other (.directory entries)) :
      Inserted url path entries (changed, .ok ())

/-- Only an insertion that succeeds changes anything. -/
theorem Inserted.unchanged {url : String} {path : List String} {entries : Entries}
    {result : Entries × Except Collision Unit} (inserted : Inserted url path entries result)
    {collision : Collision} (fails : result.2 = .error collision) : result.1 = entries := by
  cases inserted with
  | added => simp at fails
  | _ => rfl

/-- In an empty directory nothing collides. -/
theorem Inserted.ok_of_empty {url : String} {path : List String}
    {result : Entries × Except Collision Unit} (inserted : Inserted url path [] result) :
    result.2 = .ok () := by
  cases inserted with
  | fileOnTheWay _ isPage => exact absurd (page?_empty _) isPage
  | endsAtDirectory _ isPage => exact absurd (page?_empty _) isPage
  | alreadyThere isPage => exact absurd (page?_empty _) isPage
  | added => rfl

/-- An insertion below a directory, seen from the directory. -/
theorem Inserted.enter {url segment : String} {rest : List String} {entries inner : Entries}
    {result : Entries × Except Collision Unit} (proper : AreProper entries)
    (below : ∀ other, page? (segment :: other) (.directory entries) =
      page? other (.directory inner))
    (inserted : Inserted url rest inner result)
    (restored : ∀ collision, result.2 = .error collision →
      setEntry (.text segment) (.directory result.1) entries = entries) :
    Inserted url (segment :: rest) entries
      (setEntry (.text segment) (.directory result.1) entries,
        result.2.mapError Collision.deeper) := by
  cases inserted with
  | fileOnTheWay further isPage =>
      rw [restored _ rfl]
      refine .fileOnTheWay (by simpa using further) ?_
      rw [List.take_succ_cons, below]
      exact isPage
  | endsAtDirectory further isPage =>
      rw [restored _ rfl]
      refine .endsAtDirectory further ?_
      rw [List.cons_append, below]
      exact isPage
  | alreadyThere isPage =>
      rw [restored _ rfl]
      refine .alreadyThere ?_
      rw [below]
      exact isPage
  | @added changed isFree changedProper pages =>
      have filled : changed ≠ [] := by
        rintro rfl
        simpa using pages rest
      have isProper := isProper_directory_iff.mpr ⟨filled, changedProper⟩
      refine .added (by rw [below]; exact isFree) (proper.setEntry segment isProper) ?_
      intro other
      cases other with
      | nil => simp
      | cons first others =>
          rw [proper.page?_setEntry _ _ _ isProper]
          by_cases same : first = segment
          · subst same
            simp [pages, below]
          · simp [same]

/-- An insertion of one segment looks at its entry alone. -/
theorem insert_last_inserted (url segment : String) {entries : Entries}
    (proper : AreProper entries) :
    Inserted url [segment] entries (insert (.text url) [.text segment] entries) := by
  have isProperPage : IsProper (.page (.text url)) := .page url
  simp only [insert, notSegment?]
  cases found : entry? (.text segment) entries with
  | none =>
      refine .added (by simp [page?_cons_directory found])
        (proper.setEntry segment isProperPage) ?_
      intro other
      cases other with
      | nil => simp
      | cons first others =>
          rw [proper.page?_setEntry _ _ _ isProperPage]
          by_cases same : first = segment
          · subst same
            cases others <;> simp [page?, found]
          · simp [same]
  | some trie =>
      have isProper := proper.isProper_of_entry? found
      cases isProper with
      | page other => exact .alreadyThere (by rw [page?_below found]; simp [page?])
      | directory filled named distinct below =>
          -- A directory is not empty, so a page stands further down.
          obtain ⟨path, isPage⟩ := (IsProper.directory filled named distinct below).exists_page
          refine @Inserted.endsAtDirectory _ _ _ path ?_ ?_
          · rintro rfl
            exact isPage rfl
          · rw [List.singleton_append, page?_below found]
            exact isPage

/-- An insertion at a path of texts adds one page to proper entries, or changes nothing. -/
theorem insert_inserted (url : String) {path : List String} (nonempty : path ≠ [])
    {entries : Entries} (proper : AreProper entries) :
    Inserted url path entries (insert (.text url) (path.map .text) entries) := by
  induction path generalizing entries with
  | nil => exact absurd rfl nonempty
  | cons segment rest inductionHypothesis =>
      cases rest with
      | nil => exact insert_last_inserted url segment proper
      | cons next rest =>
          have further := @inductionHypothesis (List.cons_ne_nil next rest)
          simp only [List.map_cons] at further
          simp only [List.map_cons, insert, notSegment?]
          cases found : entry? (.text segment) entries with
          | none =>
              have inserted := further areProper_nil
              refine Inserted.enter proper (fun other => ?_) inserted fun collision fails => ?_
              · rw [page?_cons_directory found, page?_empty, Option.bind_none]
              · -- Behind a directory that has just been made nothing collides.
                rw [inserted.ok_of_empty] at fails
                exact absurd fails nofun
          | some trie =>
              have isProper := proper.isProper_of_entry? found
              cases isProper with
              | page other =>
                  refine .fileOnTheWay (by simp) ?_
                  simp [page?_below found, page?]
              | @directory inner filled named distinct below =>
                  have inserted := further ⟨named, distinct, below⟩
                  refine Inserted.enter proper (page?_below found) inserted
                    fun collision fails => ?_
                  rw [inserted.unchanged fails]
                  exact setEntry_of_entry? found

end DocAtlas.FileTrie
