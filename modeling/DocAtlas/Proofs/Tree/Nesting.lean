import DocAtlas.Proofs.Tree.Climbing
import DocAtlas.Proofs.Tree.Coverage
import Mathlib.Data.Set.Card
import Mathlib.Tactic.IntervalCases

/-!
# Nesting of walks

The walks over a graph count their nested calls down from an allowance, and answer nothing
when it is used up. This module shows that the names below the start of a walk bound its
nesting, whatever the links are: every call but the last meets one of them that was not met
before. An allowance that suffices is as good as any larger one.
-/

namespace DocAtlas.Graph

/-- An entity is reached from one of some entities. -/
def IsBelow (graph : Graph) (starts : List EntityId) (target : EntityId) : Prop :=
  ∃ start ∈ starts, graph.Reaches start target

/-- The full names of everything that some entities reach, their own among them. -/
def namesBelow (graph : Graph) (starts : List EntityId) : Set String :=
  graph.fullName '' {target | graph.IsBelow starts target}

section Below

variable (graph : Graph) (starts : List EntityId)

/-- The names below some entities are in stock. -/
theorem namesBelow_subset : graph.namesBelow starts ⊆ graph.stock := by
  rintro name ⟨target, -, rfl⟩
  exact graph.fullName_mem_stock target

/-- The names below some entities are a stock for every walk from them. -/
theorem exists_stockBelow :
    ∃ names : Finset String, unmet names [] = (graph.namesBelow starts).ncard ∧
      ∀ id, graph.IsBelow starts id → graph.fullName id ∈ names := by
  have finite := graph.stock.finite_toSet.subset (graph.namesBelow_subset starts)
  refine ⟨finite.toFinset, ?_, fun id isBelow => ?_⟩
  · rw [unmet, List.toFinset_nil, Finset.sdiff_empty, Set.ncard_eq_toFinset_card _ finite]
  · exact finite.mem_toFinset.mpr ⟨id, isBelow, rfl⟩

/-- There are no more names below some entities than places and the one outside. -/
theorem ncard_namesBelow_le : (graph.namesBelow starts).ncard ≤ graph.size + 1 := by
  have fewer := Set.ncard_le_ncard (graph.namesBelow_subset starts) graph.stock.finite_toSet
  rw [Set.ncard_coe_finset] at fewer
  have bound := graph.unseen_nil_le
  rw [unseen, List.toFinset_nil, Finset.sdiff_empty] at bound
  exact fewer.trans bound

end Below

variable {graph : Graph} {starts : List EntityId}

/-- The start of a descent is below it. -/
theorem IsBelow.of_mem {id : EntityId} (isStart : id ∈ starts) : graph.IsBelow starts id :=
  ⟨id, isStart, .refl⟩

/-- What is contained in an entity below the start is below it, too. -/
theorem IsBelow.member {parent child : EntityId} (isBelow : graph.IsBelow starts parent)
    (contains : graph.Contains parent child) : graph.IsBelow starts child := by
  obtain ⟨start, isStart, reaches⟩ := isBelow
  exact ⟨start, isStart, reaches.tail contains⟩

/-- A search among siblings answers as before when the search of each of them does. -/
theorem searchAny_mono {search larger : EntityId → List String → Option (Bool × List String)}
    (same : ∀ id seen answer, search id seen = some answer → larger id seen = some answer)
    {ids : List EntityId} {seen : List String} {answer : Bool × List String}
    (answered : searchAny search ids seen = some answer) :
    searchAny larger ids seen = some answer := by
  induction ids generalizing seen with
  | nil => exact answered
  | cons id rest inductionHypothesis =>
      unfold searchAny at answered ⊢
      cases first : search id seen with
      | none => simp [first] at answered
      | some found =>
          rw [first] at answered
          rw [same id seen found first]
          obtain ⟨success, middle⟩ := found
          cases success with
          | true => exact answered
          | false => exact inductionHypothesis answered

/-- A search that answers does so with every larger allowance. -/
theorem searchDocumented_mono {allowance : Nat} :
    ∀ {larger id seen answer}, allowance ≤ larger →
      graph.searchDocumented allowance id seen = some answer →
      graph.searchDocumented larger id seen = some answer := by
  induction allowance with
  | zero => exact fun _ answered => absurd answered (by simp [searchDocumented])
  | succ allowance inductionHypothesis =>
      intro larger id seen answer enough answered
      obtain ⟨larger, rfl⟩ : ∃ less, larger = less + 1 :=
        Nat.exists_eq_succ_of_ne_zero (by omega)
      unfold searchDocumented at answered ⊢
      dsimp only at answered ⊢
      split at answered
      · rename_i isSeen
        rw [if_pos isSeen]
        exact answered
      · rename_i isNew
        rw [if_neg isNew]
        split at answered
        · rename_i documented
          rw [if_pos documented]
          exact answered
        · rename_i undocumented
          rw [if_neg undocumented]
          exact searchAny_mono
            (fun _ _ _ => inductionHypothesis (Nat.le_of_succ_le_succ enough)) answered

/-- Siblings are taken up as before when each descent answers as before. -/
theorem takeSiblings_mono {descend larger : EntityId → List String → Option Walk}
    (same : ∀ id claimed walk, descend id claimed = some walk → larger id claimed = some walk)
    {siblings : List EntityId} {claimed : List String} {walk : Walk}
    (answered : graph.takeSiblings descend siblings claimed = some walk) :
    graph.takeSiblings larger siblings claimed = some walk := by
  induction siblings generalizing claimed walk with
  | nil => exact answered
  | cons id rest inductionHypothesis =>
      unfold takeSiblings at answered ⊢
      dsimp only at answered ⊢
      split at answered
      · rename_i isClaimed
        rw [if_pos isClaimed]
        obtain ⟨others, othersAnswered, made⟩ := Option.bind_eq_some_iff.mp answered
        exact Option.bind_eq_some_iff.mpr ⟨others, inductionHypothesis othersAnswered, made⟩
      · rename_i isNew
        rw [if_neg isNew]
        obtain ⟨below, descended, answered⟩ := Option.bind_eq_some_iff.mp answered
        obtain ⟨others, othersAnswered, made⟩ := Option.bind_eq_some_iff.mp answered
        exact Option.bind_eq_some_iff.mpr ⟨below, same _ _ _ descended,
          Option.bind_eq_some_iff.mpr ⟨others, inductionHypothesis othersAnswered, made⟩⟩

/-- A level that is walked is walked alike with every larger allowance. -/
theorem walkLevel_mono {allowance : Nat} :
    ∀ {larger candidates claimed walk}, allowance ≤ larger →
      graph.walkLevel allowance candidates claimed = some walk →
      graph.walkLevel larger candidates claimed = some walk := by
  induction allowance with
  | zero => exact fun _ answered => absurd answered (by simp [walkLevel])
  | succ allowance inductionHypothesis =>
      intro larger candidates claimed walk enough answered
      obtain ⟨larger, rfl⟩ : ∃ less, larger = less + 1 :=
        Nat.exists_eq_succ_of_ne_zero (by omega)
      unfold walkLevel at answered ⊢
      cases level : graph.levelOrder candidates claimed with
      | error failure =>
          rw [level] at answered
          exact answered
      | ok chosen =>
          rw [level] at answered
          exact takeSiblings_mono
            (fun _ _ _ => inductionHypothesis (Nat.le_of_succ_le_succ enough)) answered

/-- The search for documentation below an entity nests one deeper than there are names below
it at most. -/
theorem searchDocumented_of_lt (graph : Graph) (id : EntityId) {allowance : Nat}
    (enough : (graph.namesBelow [id]).ncard < allowance) :
    ∃ after, graph.searchDocumented allowance id [] = some (graph.hasDocumentation id, after) := by
  obtain ⟨names, isCount, covered⟩ := graph.exists_stockBelow [id]
  obtain ⟨found, after, answer, -⟩ := searchDocumented_answers
    (fun _ _ isBelow contains => isBelow.member contains) covered
    ((graph.namesBelow [id]).ncard + 1) id [] (.of_mem List.mem_cons_self) (by omega)
  have bound := graph.ncard_namesBelow_le [id]
  have answers : graph.hasDocumentation id = found := by
    unfold hasDocumentation
    rw [searchDocumented_mono (by omega) answer]
  exact ⟨after, answers ▸ searchDocumented_mono enough answer⟩

/-- The levels of a class tree nest one deeper than there are names below its roots at most,
whatever the links are. -/
theorem walkLevel_of_lt (orderly : graph.IsOrderly) {classes : List EntityId}
    (arePlaces : ∀ id ∈ classes, id < graph.size) {allowance : Nat}
    (enough : (graph.namesBelow (graph.roots classes)).ncard < allowance) :
    graph.walkLevel allowance (graph.roots classes) [] = some (graph.walk classes) := by
  obtain ⟨names, isCount, covered⟩ := graph.exists_stockBelow (graph.roots classes)
  have named : ∀ id, graph.IsBelow (graph.roots classes) id → graph.IsNamed id := by
    rintro id ⟨root, isRoot, reaches⟩
    cases reaches with
    | refl => exact orderly.named id (arePlaces id (mem_roots.mp isRoot).1)
    | tail _ contains => exact orderly.named id (orderly.nested_lt contains)
  obtain ⟨walk, -, answer, -, -⟩ := walkLevel_walked
    (fun _ _ isBelow contains => isBelow.member contains) named covered
    ((graph.namesBelow (graph.roots classes)).ncard + 1) _ [] (fun _ isRoot => .of_mem isRoot)
    (by omega)
  have bound := graph.ncard_namesBelow_le (graph.roots classes)
  have isWalk : graph.walk classes = walk := by
    unfold Graph.walk
    rw [walkLevel_mono (by omega) answer]
    rfl
  exact isWalk ▸ walkLevel_mono enough answer

/-- No full name stands twice in the forest of an orderly graph. -/
theorem nodup_walk (orderly : graph.IsOrderly) {classes : List EntityId}
    (arePlaces : ∀ id ∈ classes, id < graph.size) :
    ((Branch.entities (graph.walk classes).branches).map graph.fullName).Nodup := by
  obtain ⟨chosen, -, walked⟩ := walk_walked orderly arePlaces
  exact walked.spans.nodup.1

/-- A climb from a class or module ends with a line down to it, above which parent links lead
nowhere new; every allowance of one for each entity of the line leads there. -/
theorem openKeys_eq_line {id : EntityId} (isNamespace : graph.isNamespace id = true)
    (label : Value) :
    ∃ line, graph.openKeys id label = .ok (graph.keysOf line) ∧ graph.IsLine line ∧
      line.getLast? = some id ∧
      (∀ top ∈ line.head?, ∀ parent, graph.HasParent top parent →
        graph.isNamespace parent = true → graph.fullName parent ∈ line.map graph.fullName) ∧
      ∀ allowance, line.length ≤ allowance →
        graph.climb allowance [] (some id) = line.map graph.fullName := by
  obtain ⟨path, climbs, short⟩ := graph.exists_climbs [] (some id)
  refine ⟨path.reverse, openKeys_eq_keysOf isNamespace climbs (short.trans graph.unseen_nil_le)
    label, climbs.isLine, ?_, ?_, fun allowance enough => ?_⟩
  · obtain ⟨above, rfl⟩ := climbs.exists_eq_cons isNamespace
    rw [List.getLast?_reverse]
    rfl
  · intro top isTop parent hasParent upperNamespace
    rw [List.head?_reverse] at isTop
    have isMet := (climbs.parent_met isTop hasParent upperNamespace).resolve_right List.not_mem_nil
    rw [List.map_reverse]
    exact List.mem_reverse.mpr isMet
  · rw [List.length_reverse] at enough
    rw [climbs.climb_eq enough, List.append_nil, List.map_reverse]

/-- Every walk over a graph ends, whatever its links are: they may loop, be shared or lead back
to where they start, and full names may occur again. The levels of a class tree and the search
for documentation nest one deeper than there are names below where they start at most, so
allowing more changes nothing; the tree shows no full name twice. The keys of a class or module
are distinct and belong to a line of parent links down to it. -/
theorem walks_end (orderly : graph.IsOrderly) {classes : List EntityId}
    (arePlaces : ∀ id ∈ classes, id < graph.size) :
    (∀ allowance, (graph.namesBelow (graph.roots classes)).ncard < allowance →
      graph.walkLevel allowance (graph.roots classes) [] = some (graph.walk classes)) ∧
    graph.classTree classes = .ok (graph.toNodes (graph.walk classes).branches) ∧
    ((Branch.entities (graph.walk classes).branches).map graph.fullName).Nodup ∧
    (∀ id allowance, (graph.namesBelow [id]).ncard < allowance → ∃ after,
      graph.searchDocumented allowance id [] = some (graph.hasDocumentation id, after)) ∧
    ∀ id label, graph.isNamespace id = true →
      ∃ line, graph.openKeys id label = .ok (graph.keysOf line) ∧ graph.IsLine line ∧
        line.getLast? = some id ∧
        (∀ top ∈ line.head?, ∀ parent, graph.HasParent top parent →
          graph.isNamespace parent = true → graph.fullName parent ∈ line.map graph.fullName) ∧
        ∀ allowance, line.length ≤ allowance →
          graph.climb allowance [] (some id) = line.map graph.fullName :=
  ⟨fun _ => walkLevel_of_lt orderly arePlaces, classTree_of_orderly orderly arePlaces,
    nodup_walk orderly arePlaces, fun id _ => graph.searchDocumented_of_lt id,
    fun _ label isNamespace => openKeys_eq_line isNamespace label⟩

/-- A graph whose links are a knot: `A` contains itself, `B` and `C` are the parents of each
other, and a second class goes by the full name `B`. -/
def knot : Graph :=
  ⟨#[{ name := .text "A", fullName := "A", kind := .moduleDef, children := [0, 1, 3] },
     { name := .text "B", fullName := "B", kind := .classDef, parent := some 2,
       children := [0, 1, 2] },
     { name := .text "C", fullName := "C", kind := .classDef, parent := some 1, children := [1],
       documentsSelf := .bool true },
     { name := .text "B", fullName := "B", kind := .classDef, parent := some 0,
       children := [2, 3], documentsSelf := .bool true }]⟩

/-- The graph of the example is orderly. -/
theorem isOrderly_knot : knot.IsOrderly where
  named id isPlace := by
    have isOne : id < 4 := isPlace
    interval_cases id <;> exact ⟨⟨_, rfl⟩, by decide⟩
  children_lt id child isChild := by
    by_cases isPlace : id < 4
    · have inside : ∀ id < 4, ∀ child ∈ (knot.entity id).children, child < knot.size := by decide
      exact inside id isPlace child isChild
    · rw [entity_outside (Nat.le_of_not_lt isPlace)] at isChild
      exact absurd isChild List.not_mem_nil

/-- The walks over the knot end, at five nested levels at most. -/
theorem knot_walks_end :
    (∀ id ∈ [0, 1, 2, 3], id < knot.size) ∧
      (∀ allowance, 4 < allowance →
        knot.walkLevel allowance (knot.roots [0, 1, 2, 3]) [] = some (knot.walk [0, 1, 2, 3])) ∧
      ((Branch.entities (knot.walk [0, 1, 2, 3]).branches).map knot.fullName).Nodup ∧
      (∀ id, ∃ after, knot.searchDocumented 5 id [] = some (knot.hasDocumentation id, after)) ∧
      ∃ line, knot.openKeys 1 (.text "files") = .ok (knot.keysOf line) ∧ knot.IsLine line ∧
        line.getLast? = some 1 := by
  have arePlaces : ∀ id ∈ [0, 1, 2, 3], id < knot.size := by decide
  have few : ∀ starts, (knot.namesBelow starts).ncard ≤ 4 := fun starts => by
    have fewer := Set.ncard_le_ncard (knot.namesBelow_subset starts) knot.stock.finite_toSet
    rw [Set.ncard_coe_finset] at fewer
    exact fewer.trans (by decide)
  obtain ⟨levels, -, nodup, searches, keys⟩ := walks_end isOrderly_knot arePlaces
  obtain ⟨line, isKeys, isLine, isLast, -⟩ := keys 1 (.text "files") rfl
  exact ⟨arePlaces, fun allowance enough => levels allowance (Nat.lt_of_le_of_lt (few _) enough),
    nodup, fun id => searches id 5 (Nat.lt_succ_of_le (few _)), line, isKeys, isLine, isLast⟩

/-- The keys of `B` end where its parent links come back to it. -/
example : knot.openKeys 1 (.text "files") = .ok [.text "C", .text "B"] := by rfl

end DocAtlas.Graph
