import DocAtlas.Proofs.Tree.Insertion
import DocAtlas.Tree

/-!
# Runs of additions

A run starts from an empty trie and adds pages one after another, going on behind those that
are refused. This module says of every addition of every run which verdict it gets, in terms
of the paths added before, and that a refused addition leaves the trie as it was.
-/

namespace DocAtlas.FileTrie

/-- A path as it is handed over: one text, or its segments. -/
inductive GivenPath where
  | whole (path : String)
  | parts (segments : List String)

/-- The value that stands for a path. -/
def GivenPath.value : GivenPath → Value
  | whole path => .text path
  | parts segments => .list (segments.map .text)

/-- The segments of a path. Those of one text name something; those handed over are taken as
they are. -/
def GivenPath.segments : GivenPath → List String
  | whole path => Text.segments path
  | parts segments => segments

/-- Neither of two paths is in front of the other one. -/
def Apart (left right : List String) : Prop :=
  ¬ left <+: right ∧ ¬ right <+: left

/-- A page to be added: its path and its address. -/
structure Addition where
  path : GivenPath
  url : String

namespace Addition

/-- The segments of the path of an addition. -/
def segments (addition : Addition) : List String :=
  addition.path.segments

/-- Adds a page to the entries of a trie. -/
def perform (addition : Addition) (entries : Entries) : Entries × Checked Unit :=
  match relativeSegments addition.path.value with
  | .ok segments => add segments (.text addition.url) entries
  | .error failure => (entries, .error failure)

/-- One more addition, in front of it the entries and the additions that succeeded. -/
def step (state : Entries × List Addition) (addition : Addition) : Entries × List Addition :=
  match addition.perform state.1 with
  | (changed, .ok ()) => (changed, state.2 ++ [addition])
  | (changed, .error _) => (changed, state.2)

/-- The entries behind additions to an empty trie, and the additions that succeeded. -/
def run (additions : List Addition) : Entries × List Addition :=
  additions.foldl step ([], [])

/-- The paths that a run has added. -/
def taken (additions : List Addition) : List (List String) :=
  (run additions).2.map segments

/-- Proper entries hold the pages of the additions that succeeded, and no others. -/
structure Hold (entries : Entries) (added : List Addition) : Prop where
  proper : AreProper entries
  pages : ∀ path url, page? path (.directory entries) = some url ↔
    ∃ addition ∈ added, addition.segments = path ∧ addition.url = url

/-- What becomes of an addition to entries that hold those added before. -/
inductive Verdict (entries : Entries) (added : List Addition) (addition : Addition) :
    Entries × Checked Unit → Prop where
  | missing (isEmpty : addition.segments = []) :
      Verdict entries added addition
        (entries, refuse (.missingField "relative_name" (.text addition.url)))
  | blockedByFile {earlier} (isAdded : earlier ∈ added)
      (inFront : earlier.segments <+: addition.segments)
      (differs : earlier.segments ≠ addition.segments) :
      Verdict entries added addition
        (entries, refuse (.blockedByFile addition.segments earlier.segments))
  | blockedByDirectory {earlier} (nonempty : addition.segments ≠ []) (isAdded : earlier ∈ added)
      (behind : addition.segments <+: earlier.segments)
      (differs : earlier.segments ≠ addition.segments) :
      Verdict entries added addition (entries, refuse (.blockedByDirectory addition.segments))
  | duplicate {earlier} (isAdded : earlier ∈ added)
      (same : earlier.segments = addition.segments) :
      Verdict entries added addition
        (entries, refuse (.duplicate (Text.joinSegments addition.segments)))
  | succeeds {changed} (nonempty : addition.segments ≠ [])
      (isFree : ∀ earlier ∈ added, Apart earlier.segments addition.segments)
      (holds : Hold changed (added ++ [addition])) :
      Verdict entries added addition (changed, .ok ())

/-- Before any addition, the entries are empty. -/
theorem hold_nil : Hold [] [] where
  proper := areProper_nil
  pages := by simp

section Hold

variable {entries : Entries} {added : List Addition} (holds : Hold entries added)
include holds

/-- There is a page at the path of every addition that succeeded. -/
theorem Hold.isPage {addition : Addition} (isAdded : addition ∈ added) :
    page? addition.segments (.directory entries) ≠ none := by
  rw [(holds.pages _ _).mpr ⟨addition, isAdded, rfl, rfl⟩]
  exact Option.some_ne_none _

/-- Every page is there by an addition that succeeded. -/
theorem Hold.exists_addition {path : List String}
    (isPage : page? path (.directory entries) ≠ none) :
    ∃ addition ∈ added, addition.segments = path := by
  obtain ⟨url, found⟩ := Option.ne_none_iff_exists'.mp isPage
  obtain ⟨addition, isAdded, same, -⟩ := (holds.pages path url).mp found
  exact ⟨addition, isAdded, same⟩

/-- No addition that succeeded has an empty path. -/
theorem Hold.nonempty {addition : Addition} (isAdded : addition ∈ added) :
    addition.segments ≠ [] := by
  intro isEmpty
  have isPage := holds.isPage isAdded
  rw [isEmpty] at isPage
  exact isPage rfl

/-- No addition that succeeded is in front of another one. -/
theorem Hold.segments_eq_of_prefix {left right : Addition} (isLeft : left ∈ added)
    (isRight : right ∈ added) (inFront : left.segments <+: right.segments) :
    left.segments = right.segments :=
  eq_of_prefix (holds.isPage isLeft) (holds.isPage isRight) inFront

/-- What has been added in front of a path is all that has been added along it. -/
theorem Hold.front_unique {left right : Addition} (isLeft : left ∈ added) (isRight : right ∈ added)
    {path : List String} (inFront : left.segments <+: path)
    (along : right.segments <+: path ∨ path <+: right.segments) :
    left.segments = right.segments := by
  rcases along with alsoInFront | behind
  · rcases List.prefix_or_prefix_of_prefix inFront alsoInFront with first | second
    · exact holds.segments_eq_of_prefix isLeft isRight first
    · exact (holds.segments_eq_of_prefix isRight isLeft second).symm
  · exact holds.segments_eq_of_prefix isLeft isRight (inFront.trans behind)

/-- No path that is taken is empty. -/
theorem Hold.ne_nil_of_taken {file : List String} (isTaken : file ∈ added.map segments) :
    file ≠ [] := by
  obtain ⟨earlier, isAdded, rfl⟩ := List.mem_map.mp isTaken
  exact holds.nonempty isAdded

/-- A taken path in front of a path is the only one along it. -/
theorem Hold.taken_unique {file other path : List String} (isTaken : file ∈ added.map segments)
    (otherTaken : other ∈ added.map segments) (inFront : file <+: path)
    (along : other <+: path ∨ path <+: other) : file = other := by
  obtain ⟨earlier, isAdded, rfl⟩ := List.mem_map.mp isTaken
  obtain ⟨further, furtherAdded, rfl⟩ := List.mem_map.mp otherTaken
  exact holds.front_unique isAdded furtherAdded inFront along

end Hold

/-- The texts of segments are read back from any place on. -/
theorem textsFrom_map_text (place : Nat) (path : List String) :
    textsFrom place (path.map .text) = .ok path := by
  induction path generalizing place with
  | nil => rfl
  | cons segment rest inductionHypothesis =>
      rw [List.map_cons, textsFrom, inductionHypothesis]
      rfl

/-- An addition is performed on its segments, however they were given. -/
theorem perform_eq (addition : Addition) (entries : Entries) :
    addition.perform entries = add (addition.segments.map .text) (.text addition.url) entries := by
  unfold perform segments GivenPath.value GivenPath.segments relativeSegments
  cases addition.path <;> rfl

/-- Entries with one more page hold one more addition. -/
theorem Hold.extend {entries changed : Entries} {added : List Addition} {addition : Addition}
    (holds : Hold entries added) (isFree : page? addition.segments (.directory entries) = none)
    (proper : AreProper changed)
    (pages : ∀ other, page? other (.directory changed) =
      if other = addition.segments then some addition.url else page? other (.directory entries)) :
    Hold changed (added ++ [addition]) where
  proper := proper
  pages := by
    intro path url
    rw [pages]
    simp only [List.mem_append, List.mem_singleton]
    by_cases same : path = addition.segments
    · rw [if_pos same, Option.some.injEq]
      constructor
      · exact fun isUrl => ⟨addition, .inr rfl, same.symm, isUrl⟩
      · rintro ⟨earlier, isAdded | rfl, isPath, isUrl⟩
        · -- The path was free before.
          have isPage := holds.isPage isAdded
          rw [isPath, same] at isPage
          exact absurd isFree isPage
        · exact isUrl
    · rw [if_neg same, holds.pages]
      constructor
      · rintro ⟨earlier, isAdded, found⟩
        exact ⟨earlier, .inl isAdded, found⟩
      · rintro ⟨earlier, isAdded | rfl, isPath, isUrl⟩
        · exact ⟨earlier, isAdded, isPath, isUrl⟩
        · exact absurd isPath.symm same

/-- Nothing stands along the path of an addition that entries hold besides the others. -/
theorem Hold.free_of_extended {entries changed : Entries} {added : List Addition}
    {addition : Addition} (holds : Hold entries added)
    (isFree : page? addition.segments (.directory entries) = none)
    (holdsOn : Hold changed (added ++ [addition])) {earlier : Addition}
    (isAdded : earlier ∈ added) : Apart earlier.segments addition.segments := by
  have isEarlier : earlier ∈ added ++ [addition] := List.mem_append_left _ isAdded
  have isLast : addition ∈ added ++ [addition] := by simp
  have differs : earlier.segments ≠ addition.segments := by
    intro same
    have isPage := holds.isPage isAdded
    rw [same] at isPage
    exact isPage isFree
  exact ⟨fun inFront => differs (holdsOn.segments_eq_of_prefix isEarlier isLast inFront),
    fun behind => differs (holdsOn.segments_eq_of_prefix isLast isEarlier behind).symm⟩

/-- Every addition to entries that hold those added before gets one of the verdicts. -/
theorem Hold.verdict {entries : Entries} {added : List Addition} (holds : Hold entries added)
    (addition : Addition) : Verdict entries added addition (addition.perform entries) := by
  rw [perform_eq]
  unfold add
  by_cases isEmpty : addition.segments = []
  · rw [if_pos (by simp [isEmpty])]
    exact .missing isEmpty
  · rw [if_neg (by simpa using isEmpty)]
    have inserted := insert_inserted addition.url isEmpty holds.proper
    generalize insert (.text addition.url) (addition.segments.map .text) entries = result at *
    cases inserted with
    | @fileOnTheWay depth further isPage =>
        obtain ⟨earlier, isAdded, same⟩ := holds.exists_addition isPage
        have differs : earlier.segments ≠ addition.segments := by
          intro equal
          have lengths := congrArg List.length (same.symm.trans equal)
          rw [List.length_take] at lengths
          omega
        have verdict : Verdict entries added addition _ :=
          .blockedByFile isAdded (same ▸ List.take_prefix _ _) differs
        rw [same] at verdict
        simpa [Collision.failure, textsFrom_map_text, Except.mapError, refuse] using verdict
    | @endsAtDirectory behind further isPage =>
        obtain ⟨earlier, isAdded, same⟩ := holds.exists_addition isPage
        have verdict : Verdict entries added addition _ :=
          .blockedByDirectory isEmpty isAdded ⟨behind, same.symm⟩ (by simpa [same] using further)
        simpa [Collision.failure, textsFrom_map_text, Except.mapError, refuse] using verdict
    | alreadyThere isPage =>
        obtain ⟨earlier, isAdded, same⟩ := holds.exists_addition isPage
        have verdict : Verdict entries added addition _ := .duplicate isAdded same
        simpa [Collision.failure, textsFrom_map_text, Except.mapError, refuse] using verdict
    | @added changed isFree proper pages =>
        have holdsOn := holds.extend isFree proper pages
        exact .succeeds isEmpty (fun _ => holds.free_of_extended isFree holdsOn) holdsOn

/-- An addition succeeds when its path is not empty and apart from all others; otherwise it is
refused and changes nothing. -/
theorem Hold.outcome {entries : Entries} {added : List Addition} (holds : Hold entries added)
    (addition : Addition) :
    ((addition.segments ≠ [] ∧ ∀ earlier ∈ added, Apart earlier.segments addition.segments) ∧
        ∃ changed, addition.perform entries = (changed, .ok ()) ∧
          Hold changed (added ++ [addition])) ∨
      (¬ (addition.segments ≠ [] ∧
          ∀ earlier ∈ added, Apart earlier.segments addition.segments) ∧
        ∃ fault, addition.perform entries = (entries, refuse fault)) := by
  have verdict := holds.verdict addition
  generalize addition.perform entries = result at *
  cases verdict with
  | missing isEmpty => exact .inr ⟨fun isFree => isFree.1 isEmpty, _, rfl⟩
  | blockedByFile isAdded inFront =>
      exact .inr ⟨fun isFree => (isFree.2 _ isAdded).1 inFront, _, rfl⟩
  | blockedByDirectory _ isAdded behind =>
      exact .inr ⟨fun isFree => (isFree.2 _ isAdded).2 behind, _, rfl⟩
  | duplicate isAdded same =>
      exact .inr ⟨fun isFree => (isFree.2 _ isAdded).1 (same ▸ List.prefix_rfl), _, rfl⟩
  | succeeds nonempty isFree holdsOn => exact .inl ⟨⟨nonempty, isFree⟩, _, rfl, holdsOn⟩

/-- A run keeps a trie that holds what has been added. -/
theorem Hold.step {state : Entries × List Addition} (holds : Hold state.1 state.2)
    (addition : Addition) : Hold (step state addition).1 (step state addition).2 := by
  have verdict := holds.verdict addition
  unfold Addition.step
  generalize addition.perform state.1 = result at *
  cases verdict with
  | succeeds _ _ holdsOn => exact holdsOn
  | _ => exact holds

/-- The entries after a run hold the additions that succeeded in it. -/
theorem hold_run (additions : List Addition) : Hold (run additions).1 (run additions).2 := by
  have hold_foldl : ∀ state : Entries × List Addition, Hold state.1 state.2 →
      Hold (additions.foldl Addition.step state).1 (additions.foldl Addition.step state).2 := by
    induction additions with
    | nil => exact fun state holds => holds
    | cons addition rest inductionHypothesis =>
        exact fun state holds => inductionHypothesis _ (holds.step addition)
  exact hold_foldl ([], []) hold_nil

/-- What an addition meets decides its verdict: an empty path, a path added in front of its
own, one behind it, or its own path; otherwise it succeeds. -/
theorem Hold.answers {entries : Entries} {added : List Addition} (holds : Hold entries added)
    {addition : Addition} {result : Entries × Checked Unit}
    (verdict : Verdict entries added addition result) :
    (result.2 = refuse (.missingField "relative_name" (.text addition.url)) ↔
        addition.segments = []) ∧
      (∀ file, result.2 = refuse (.blockedByFile addition.segments file) ↔
        file ∈ added.map segments ∧ file <+: addition.segments ∧ file ≠ addition.segments) ∧
      (result.2 = refuse (.blockedByDirectory addition.segments) ↔
        addition.segments ≠ [] ∧ ∃ file ∈ added.map segments,
          addition.segments <+: file ∧ file ≠ addition.segments) ∧
      (result.2 = refuse (.duplicate (Text.joinSegments addition.segments)) ↔
        addition.segments ∈ added.map segments) ∧
      (result.2 = .ok () ↔
        addition.segments ≠ [] ∧
          ∀ file ∈ added.map segments, Apart file addition.segments) := by
  -- The conditions exclude each other: what stands in front of the path is all along it.
  cases verdict with
  | missing isEmpty =>
      have noneInFront : ∀ file ∈ added.map segments, ¬ file <+: addition.segments := by
        intro file isTaken inFront
        rw [isEmpty] at inFront
        exact holds.ne_nil_of_taken isTaken (List.prefix_nil.mp inFront)
      exact ⟨iff_of_true rfl isEmpty,
        fun file => iff_of_false nofun fun blocks => noneInFront file blocks.1 blocks.2.1,
        iff_of_false nofun fun blocks => blocks.1 isEmpty,
        iff_of_false nofun fun isTaken => holds.ne_nil_of_taken isTaken isEmpty,
        iff_of_false nofun fun isFree => isFree.1 isEmpty⟩
  | @blockedByFile earlier isAdded inFront differs =>
      have isTaken : earlier.segments ∈ added.map segments := List.mem_map_of_mem isAdded
      have noneBehind : ¬ addition.segments <+: earlier.segments :=
        fun behind => differs (inFront.eq_of_length_le behind.length_le)
      refine ⟨iff_of_false nofun fun isEmpty => ?_, fun file => ⟨fun same => ?_, ?_⟩,
        iff_of_false nofun ?_, iff_of_false nofun fun pathTaken => ?_,
        iff_of_false nofun fun isFree => (isFree.2 _ isTaken).1 inFront⟩
      · exact noneBehind (isEmpty ▸ List.nil_prefix)
      · cases same
        exact ⟨isTaken, inFront, differs⟩
      · rintro ⟨fileTaken, fileInFront, -⟩
        rw [holds.taken_unique isTaken fileTaken inFront (.inl fileInFront)]
      · rintro ⟨-, file, fileTaken, behind, -⟩
        rw [← holds.taken_unique isTaken fileTaken inFront (.inr behind)] at behind
        exact noneBehind behind
      · exact differs (holds.taken_unique isTaken pathTaken inFront (.inl List.prefix_rfl))
  | @blockedByDirectory earlier nonempty isAdded behind differs =>
      have isTaken : earlier.segments ∈ added.map segments := List.mem_map_of_mem isAdded
      have noneInFront : ∀ file ∈ added.map segments, ¬ file <+: addition.segments := by
        intro file fileTaken inFront
        rw [holds.taken_unique fileTaken isTaken inFront (.inr behind)] at inFront
        exact differs (inFront.eq_of_length_le behind.length_le)
      exact ⟨iff_of_false nofun nonempty,
        fun file => iff_of_false nofun fun blocks => noneInFront file blocks.1 blocks.2.1,
        iff_of_true rfl ⟨nonempty, _, isTaken, behind, differs⟩,
        iff_of_false nofun fun pathTaken => noneInFront _ pathTaken List.prefix_rfl,
        iff_of_false nofun fun isFree => (isFree.2 _ isTaken).2 behind⟩
  | duplicate isAdded same =>
      have isTaken : addition.segments ∈ added.map segments := same ▸ List.mem_map_of_mem isAdded
      have alone : ∀ file ∈ added.map segments,
          file <+: addition.segments ∨ addition.segments <+: file → file = addition.segments :=
        fun file fileTaken along =>
          (holds.taken_unique isTaken fileTaken List.prefix_rfl along).symm
      refine ⟨iff_of_false nofun (holds.ne_nil_of_taken isTaken),
        fun file => iff_of_false nofun ?_, iff_of_false nofun ?_, iff_of_true rfl isTaken,
        iff_of_false nofun fun isFree => (isFree.2 _ isTaken).1 List.prefix_rfl⟩
      · rintro ⟨fileTaken, inFront, differs⟩
        exact differs (alone file fileTaken (.inl inFront))
      · rintro ⟨-, file, fileTaken, behind, differs⟩
        exact differs (alone file fileTaken (.inr behind))
  | succeeds nonempty isFree =>
      have allApart : ∀ file ∈ added.map segments, Apart file addition.segments := by
        rw [List.forall_mem_map]
        exact isFree
      refine ⟨iff_of_false nofun nonempty, fun file => iff_of_false nofun ?_,
        iff_of_false nofun ?_, iff_of_false nofun fun isTaken => ?_,
        iff_of_true rfl ⟨nonempty, allApart⟩⟩
      · rintro ⟨fileTaken, inFront, -⟩
        exact (allApart file fileTaken).1 inFront
      · rintro ⟨-, file, fileTaken, behind, -⟩
        exact (allApart file fileTaken).2 behind
      · exact (allApart _ isTaken).1 List.prefix_rfl

/-- A refused addition changes nothing. -/
theorem Verdict.unchanged {entries : Entries} {added : List Addition} {addition : Addition}
    {result : Entries × Checked Unit} (verdict : Verdict entries added addition result)
    (fails : result.2 ≠ .ok ()) : result.1 = entries := by
  cases verdict with
  | succeeds => exact absurd rfl fails
  | _ => rfl

/-- The paths added so far decide what becomes of the next addition of a run. An empty path is
missing, whatever stands behind it. Any other path is refused for one of them properly in
front of it, properly behind it, or equal to it, and otherwise succeeds. A refused addition
leaves the whole trie as it was. -/
theorem run_verdict (earlier : List Addition) (addition : Addition) :
    let path := addition.segments
    let result := addition.perform (run earlier).1
    (result.2 = refuse (.missingField "relative_name" (.text addition.url)) ↔ path = []) ∧
      (∀ file, result.2 = refuse (.blockedByFile path file) ↔
        file ∈ taken earlier ∧ file <+: path ∧ file ≠ path) ∧
      (result.2 = refuse (.blockedByDirectory path) ↔
        path ≠ [] ∧ ∃ file ∈ taken earlier, path <+: file ∧ file ≠ path) ∧
      (result.2 = refuse (.duplicate (Text.joinSegments path)) ↔ path ∈ taken earlier) ∧
      (result.2 = .ok () ↔ path ≠ [] ∧ ∀ file ∈ taken earlier, Apart file path) ∧
      (result.2 ≠ .ok () → result.1 = (run earlier).1) := by
  intro path result
  have holds := hold_run earlier
  have verdict : Verdict _ _ addition result := holds.verdict addition
  obtain ⟨missing, byFile, byDirectory, duplicate, succeeds⟩ := holds.answers verdict
  exact ⟨missing, byFile, byDirectory, duplicate, succeeds, verdict.unchanged⟩

end Addition

end DocAtlas.FileTrie
