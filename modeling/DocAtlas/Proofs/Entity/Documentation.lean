import DocAtlas.Entity.Documentation
import DocAtlas.Proofs.Entity.Containment

/-!
# Documentation is reachability

The search for documentation answers whether a documented entity is reached. Its
allowance is never used up. A search that fails has explored every name that it
added to those seen: the entity of such a name is undocumented and all its members
are among the names seen. That is what carries the induction, because the entities
that are still being searched are seen without being explored.
-/

namespace DocAtlas

/-- An entity is documented by itself or by its methods. -/
theorem Entity.isDocumented_iff {entity : Entity} :
    entity.isDocumented = true ↔ entity.documentsSelf.isGiven = true ∨ entity.methods ≠ [] := by
  simp [isDocumented]

namespace Graph

/-- A search among siblings answers when the search of each of them does. -/
theorem searchAny_answers {search : EntityId → List String → Option (Bool × List String)}
    {inside : EntityId → Prop} {start : List String}
    (answers : ∀ id seen, inside id → start ⊆ seen →
      ∃ found after, search id seen = some (found, after) ∧ seen ⊆ after) :
    ∀ ids seen, (∀ id ∈ ids, inside id) → start ⊆ seen →
      ∃ found after, searchAny search ids seen = some (found, after) ∧ seen ⊆ after := by
  intro ids
  induction ids with
  | nil => exact fun seen _ _ => ⟨false, seen, rfl, List.Subset.refl _⟩
  | cons id rest inductionHypothesis =>
      intro seen areInside grown
      rw [List.forall_mem_cons] at areInside
      obtain ⟨found, middle, answer, kept⟩ := answers id seen areInside.1 grown
      cases found with
      | true => exact ⟨true, middle, by simp [searchAny, answer], kept⟩
      | false =>
          obtain ⟨found, after, others, keptOn⟩ :=
            inductionHypothesis middle areInside.2 (List.Subset.trans grown kept)
          exact ⟨found, after, by simp [searchAny, answer, others],
            List.Subset.trans kept keptOn⟩

/-- An allowance above the number of unmet names, out of a stock that holds all names the
search can meet, is never used up. -/
theorem searchDocumented_answers {graph : Graph} {inside : EntityId → Prop}
    (closed : ∀ parent child, inside parent → graph.Contains parent child → inside child)
    {names : Finset String} (covered : ∀ id, inside id → graph.fullName id ∈ names) :
    ∀ allowance id seen, inside id → unmet names seen < allowance →
      ∃ found after, graph.searchDocumented allowance id seen = some (found, after) ∧
        seen ⊆ after := by
  intro allowance
  induction allowance with
  | zero => exact fun _ _ _ enough => absurd enough (Nat.not_lt_zero _)
  | succ allowance inductionHypothesis =>
      intro id seen isInside enough
      unfold searchDocumented
      by_cases isSeen : (graph.entity id).fullName ∈ seen
      · exact ⟨false, seen, by simp [isSeen], List.Subset.refl _⟩
      · by_cases documented : (graph.entity id).isDocumented = true
        · exact ⟨true, (graph.entity id).fullName :: seen, by simp [isSeen, documented],
            List.subset_cons_self _ _⟩
        · have fewer : unmet names (graph.fullName id :: seen) < allowance :=
            Nat.lt_of_lt_of_le (unmet_cons_lt (covered id isInside) isSeen)
              (Nat.le_of_lt_succ enough)
          have answers : ∀ child later, inside child → graph.fullName id :: seen ⊆ later →
              ∃ found after, graph.searchDocumented allowance child later = some (found, after) ∧
                later ⊆ after := fun child later childInside grown =>
            inductionHypothesis child later childInside
              (Nat.lt_of_le_of_lt (unmet_le_of_subset grown) fewer)
          obtain ⟨found, after, answer, kept⟩ := searchAny_answers answers (graph.nested id) _
            (fun child contains => closed id child isInside contains) (List.Subset.refl _)
          refine ⟨found, after, ?_, List.Subset.trans (List.subset_cons_self _ _) kept⟩
          rw [if_neg (by simpa using isSeen), if_neg documented]
          exact answer

/-- A search among siblings succeeds only by the search of one of them. -/
theorem searchAny_succeeds {search : EntityId → List String → Option (Bool × List String)}
    {ids : List EntityId} {seen after : List String}
    (success : searchAny search ids seen = some (true, after)) :
    ∃ id ∈ ids, ∃ before, search id before = some (true, after) := by
  induction ids generalizing seen with
  | nil => simp [searchAny] at success
  | cons id rest inductionHypothesis =>
      unfold searchAny at success
      split at success
      · exact absurd success (by simp)
      · rename_i middle answer
        cases success
        exact ⟨id, List.mem_cons_self, seen, answer⟩
      · rename_i middle answer
        obtain ⟨found, isRest, before, succeeds⟩ := inductionHypothesis success
        exact ⟨found, List.mem_cons_of_mem _ isRest, before, succeeds⟩

/-- A search succeeds only at a documented entity that it reaches. -/
theorem searchDocumented_sound (graph : Graph) :
    ∀ allowance id seen after, graph.searchDocumented allowance id seen = some (true, after) →
      ∃ target, graph.Reaches id target ∧ (graph.entity target).isDocumented = true := by
  intro allowance
  induction allowance with
  | zero => exact fun _ _ _ success => absurd success (by simp [searchDocumented])
  | succ allowance inductionHypothesis =>
      intro id seen after success
      unfold searchDocumented at success
      dsimp only at success
      split at success
      · simp at success
      · split at success
        · rename_i documented
          exact ⟨id, .refl, documented⟩
        · obtain ⟨child, contains, before, answer⟩ := searchAny_succeeds success
          obtain ⟨target, reaches, documented⟩ := inductionHypothesis _ _ _ answer
          exact ⟨target, .head contains reaches, documented⟩

/-- Between two states of a search every name that was added belongs to an
undocumented entity whose members have all been seen. -/
def Explored (graph : Graph) (inside : EntityId → Prop) (seen after : List String) : Prop :=
  seen ⊆ after ∧ ∀ id, inside id → graph.fullName id ∈ after → graph.fullName id ∉ seen →
    (graph.entity id).isDocumented = false ∧
      ∀ child, graph.Contains id child → graph.fullName child ∈ after

/-- A search that meets no more names leaves nothing to explore. -/
theorem Explored.refl (graph : Graph) (inside : EntityId → Prop) (seen : List String) :
    graph.Explored inside seen seen :=
  ⟨List.Subset.refl _, fun _ _ isSeen isNew => absurd isSeen isNew⟩

/-- What two searches explore one after the other, both explore together. -/
theorem Explored.trans {graph : Graph} {inside : EntityId → Prop}
    {seen middle after : List String} (first : graph.Explored inside seen middle)
    (second : graph.Explored inside middle after) : graph.Explored inside seen after := by
  refine ⟨List.Subset.trans first.1 second.1, fun id isInside isAfter isNew => ?_⟩
  by_cases isMiddle : graph.fullName id ∈ middle
  · obtain ⟨undocumented, members⟩ := first.2 id isInside isMiddle isNew
    exact ⟨undocumented, fun child contains => second.1 (members child contains)⟩
  · exact second.2 id isInside isAfter isMiddle

/-- A search among siblings that fails has explored all of them. -/
theorem searchAny_fails {graph : Graph} {inside : EntityId → Prop}
    {search : EntityId → List String → Option (Bool × List String)}
    (explores : ∀ id seen after, inside id → search id seen = some (false, after) →
      graph.Explored inside seen after ∧ graph.fullName id ∈ after) :
    ∀ ids seen after, (∀ id ∈ ids, inside id) → searchAny search ids seen = some (false, after) →
      graph.Explored inside seen after ∧ ∀ id ∈ ids, graph.fullName id ∈ after := by
  intro ids
  induction ids with
  | nil =>
      intro seen after _ failure
      cases failure
      exact ⟨.refl graph inside seen, by simp⟩
  | cons id rest inductionHypothesis =>
      intro seen after areInside failure
      rw [List.forall_mem_cons] at areInside
      unfold searchAny at failure
      split at failure
      · exact absurd failure (by simp)
      · exact absurd failure (by simp)
      · rename_i middle answer
        obtain ⟨explored, isMiddle⟩ := explores id seen middle areInside.1 answer
        obtain ⟨exploredOn, others⟩ := inductionHypothesis middle after areInside.2 failure
        exact ⟨explored.trans exploredOn,
          List.forall_mem_cons.mpr ⟨exploredOn.1 isMiddle, others⟩⟩

/-- A search that fails has explored its entity, where names tell entities apart. -/
theorem searchDocumented_fails {graph : Graph} {inside : EntityId → Prop}
    (closed : ∀ parent child, inside parent → graph.Contains parent child → inside child)
    (distinct : ∀ left right, inside left → inside right →
      graph.fullName left = graph.fullName right → left = right) :
    ∀ allowance id seen after, inside id →
      graph.searchDocumented allowance id seen = some (false, after) →
      graph.Explored inside seen after ∧ graph.fullName id ∈ after := by
  intro allowance
  induction allowance with
  | zero => exact fun _ _ _ _ failure => absurd failure (by simp [searchDocumented])
  | succ allowance inductionHypothesis =>
      intro id seen after isInside failure
      unfold searchDocumented at failure
      dsimp only at failure
      split at failure
      · rename_i isSeen
        cases failure
        exact ⟨.refl graph inside seen, by simpa [fullName] using isSeen⟩
      · rename_i isNew
        split at failure
        · simp at failure
        · rename_i undocumented
          obtain ⟨explored, members⟩ := searchAny_fails inductionHypothesis _ _ _
            (fun child contains => closed id child isInside contains) failure
          have isAfter : graph.fullName id ∈ after := explored.1 List.mem_cons_self
          refine ⟨⟨List.Subset.trans (List.subset_cons_self _ _) explored.1, ?_⟩, isAfter⟩
          intro other otherInside otherAfter otherNew
          by_cases same : graph.fullName other = graph.fullName id
          · -- The name just added stands for this entity alone.
            rw [distinct other id otherInside isInside same]
            exact ⟨by simpa using undocumented, members⟩
          · exact explored.2 other otherInside otherAfter
              (List.not_mem_cons_of_ne_of_not_mem same otherNew)

/-- Where full names tell apart what an entity reaches, it has documentation exactly
when it reaches a documented entity. -/
theorem hasDocumentation_iff {graph : Graph} {start : EntityId}
    (distinct : ∀ left right, graph.Reaches start left → graph.Reaches start right →
      graph.fullName left = graph.fullName right → left = right) :
    graph.hasDocumentation start = true ↔
      ∃ target, graph.Reaches start target ∧ (graph.entity target).isDocumented = true := by
  have bound := graph.unseen_nil_le
  have closed : ∀ parent child, graph.Reaches start parent → graph.Contains parent child →
      graph.Reaches start child := fun _ _ reaches contains => reaches.tail contains
  obtain ⟨found, after, answer, -⟩ := searchDocumented_answers closed
    (fun id _ => graph.fullName_mem_stock id) (graph.size + 2) start [] .refl
    (Nat.lt_succ_of_le bound)
  unfold hasDocumentation
  rw [answer]
  cases found with
  | true => exact ⟨fun _ => graph.searchDocumented_sound _ _ _ _ answer, fun _ => rfl⟩
  | false =>
      obtain ⟨explored, isAfter⟩ :=
        searchDocumented_fails closed distinct _ start [] after .refl answer
      refine ⟨fun absurdity => absurd absurdity (by simp), ?_⟩
      have seen : ∀ target, graph.Reaches start target → graph.fullName target ∈ after := by
        intro target reaches
        induction reaches with
        | refl => exact isAfter
        | tail reachesParent contains inductionHypothesis =>
            exact (explored.2 _ reachesParent inductionHypothesis List.not_mem_nil).2 _ contains
      rintro ⟨target, reaches, documented⟩
      have undocumented := (explored.2 target reaches (seen target reaches) List.not_mem_nil).1
      rw [undocumented] at documented
      exact absurd documented (by simp)

/-- Two graphs hold the same entities as far as documentation goes, with the same members in
whatever order and however often. -/
def HasSameMembers (graph other : Graph) : Prop :=
  ∀ id, graph.fullName id = other.fullName id ∧
    (graph.entity id).isDocumented = (other.entity id).isDocumented ∧
    ∀ child, graph.Contains id child ↔ other.Contains id child

/-- The same members reach the same entities. -/
theorem HasSameMembers.reaches_eq {graph other : Graph} (same : graph.HasSameMembers other) :
    graph.Reaches = other.Reaches := by
  have contains : graph.Contains = other.Contains := by
    ext parent child
    exact (same parent).2.2 child
  unfold Reaches
  rw [contains]

/-- An entity has documentation exactly when it reaches, by zero or more containments, an entity
that documents itself or has methods. Containment may loop and be shared, as long as full names
tell apart what is reached, and files are not followed. Neither the order of members nor their
number has a part in the answer. -/
theorem documentation_is_reachability {graph : Graph} {start : EntityId}
    (distinct : ∀ left right, graph.Reaches start left → graph.Reaches start right →
      graph.fullName left = graph.fullName right → left = right) :
    (graph.hasDocumentation start = true ↔
      ∃ target, graph.Reaches start target ∧
        ((graph.entity target).documentsSelf.isGiven = true ∨
          (graph.entity target).methods ≠ [])) ∧
    ∀ other, graph.HasSameMembers other →
      other.hasDocumentation start = graph.hasDocumentation start := by
  have found := hasDocumentation_iff distinct
  refine ⟨?_, fun other same => ?_⟩
  · simp only [found, Entity.isDocumented_iff]
  · have otherDistinct : ∀ left right, other.Reaches start left → other.Reaches start right →
        other.fullName left = other.fullName right → left = right := by
      intro left right
      rw [← same.reaches_eq, ← (same left).1, ← (same right).1]
      exact distinct left right
    rw [Bool.eq_iff_iff, found, hasDocumentation_iff otherDistinct, same.reaches_eq]
    refine exists_congr fun target => and_congr_right fun _ => ?_
    rw [(same target).2.1]

/-- A graph where `A`, `B` and `C` contain each other in turns and `B` contains `E`, which has a
method. `F` and `G` contain each other, and `F` the documented file `d.rb` with the documented
class `D` in it. -/
def roundabout : Graph :=
  ⟨#[{ name := .text "A", fullName := "A", kind := .moduleDef, children := [2, 1] },
     { name := .text "B", fullName := "B", kind := .classDef, children := [0, 2, 4] },
     { name := .text "C", fullName := "C", kind := .classDef, children := [2, 3, 1] },
     { name := .text "d.rb", fullName := "d.rb", kind := .file, documentsSelf := .bool true,
       children := [5] },
     { name := .text "E", fullName := "E", kind := .classDef, children := [0],
       methods := [⟨"call", .text "", .text ""⟩] },
     { name := .text "D", fullName := "D", kind := .classDef, documentsSelf := .bool true,
       parent := some 3 },
     { name := .text "F", fullName := "F", kind := .moduleDef, children := [7, 3, 6] },
     { name := .text "G", fullName := "G", kind := .moduleDef, children := [6] }]⟩

/-- `A` reaches the method of `E` past all that it has seen before; `F` reaches nothing that is
documented, as `D` stands behind a file. -/
theorem roundabout_documentation :
    (∀ start left right, start < 8 → roundabout.Reaches start left →
      roundabout.Reaches start right →
      roundabout.fullName left = roundabout.fullName right → left = right) ∧
    (∃ target, roundabout.Reaches 0 target ∧
      ((roundabout.entity target).documentsSelf.isGiven = true ∨
        (roundabout.entity target).methods ≠ [])) ∧
    ¬ ∃ target, roundabout.Reaches 6 target ∧
      ((roundabout.entity target).documentsSelf.isGiven = true ∨
        (roundabout.entity target).methods ≠ []) := by
  have membersInside : ∀ id < 8, ∀ child ∈ roundabout.nested id, child < 8 := by decide
  have inside : ∀ start target, start < 8 → roundabout.Reaches start target → target < 8 := by
    intro start target isPlace reaches
    induction reaches with
    | refl => exact isPlace
    | tail _ contains inductionHypothesis => exact membersInside _ inductionHypothesis _ contains
  have named : ∀ left < 8, ∀ right < 8,
      roundabout.fullName left = roundabout.fullName right → left = right := by decide
  have distinct : ∀ start left right, start < 8 → roundabout.Reaches start left →
      roundabout.Reaches start right →
      roundabout.fullName left = roundabout.fullName right → left = right :=
    fun start left right isPlace reachesLeft reachesRight =>
      named left (inside start left isPlace reachesLeft) right
        (inside start right isPlace reachesRight)
  refine ⟨distinct, ?_, ?_⟩
  · exact (documentation_is_reachability fun left right => distinct 0 left right (by decide)).1.mp
      (by decide)
  · intro documented
    have answer := (documentation_is_reachability fun left right =>
      distinct 6 left right (by decide)).1.mpr documented
    exact absurd answer (by decide)

end Graph

end DocAtlas
