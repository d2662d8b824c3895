import DocAtlas.Proofs.Entity.Containment
import DocAtlas.Tree.OpenBranch
import Mathlib.Data.List.Chain

/-!
# Climbing

The keys of a class or module are found on a climb along parent links. The relation
`Graph.Climbs`, rather than the loop with its allowance, says which entities a climb
meets. Each of them uses up a name of the graph, so every climb ends, also where parent
links loop; what it met, seen from the top down, is a line of classes and modules each of
which stands under its parent.
-/

namespace DocAtlas.Graph

/-- The entities met on a climb past the names already met, in order. The climb ends
where nothing is, at a file, or at a name that it has met. -/
inductive Climbs (graph : Graph) : List String → Option EntityId → List EntityId → Prop where
  | ends {below current}
      (goesNowhere : ∀ id, current = some id → graph.isNamespace id = true →
        graph.fullName id ∈ below) :
      Climbs graph below current []
  | rises {below id path} (isNamespace : graph.isNamespace id = true)
      (isNew : graph.fullName id ∉ below)
      (further : Climbs graph (graph.fullName id :: below) (graph.entity id).parent path) :
      Climbs graph below (some id) (id :: path)

/-- Every climb ends, and meets no more entities than there are unseen names. -/
theorem exists_climbs (graph : Graph) (below : List String) (current : Option EntityId) :
    ∃ path, graph.Climbs below current path ∧ path.length ≤ graph.unseen below := by
  induction remaining : graph.unseen below using Nat.strong_induction_on
    generalizing below current with
  | _ remaining inductionHypothesis =>
      by_cases rising : ∃ id, current = some id ∧ graph.isNamespace id = true ∧
          graph.fullName id ∉ below
      · obtain ⟨id, rfl, isNamespace, isNew⟩ := rising
        have fewer := unseen_cons_lt isNew
        obtain ⟨path, further, short⟩ := inductionHypothesis _ (remaining ▸ fewer)
          (graph.fullName id :: below) (graph.entity id).parent rfl
        refine ⟨id :: path, .rises isNamespace isNew further, ?_⟩
        rw [List.length_cons]
        omega
      · push Not at rising
        exact ⟨[], .ends rising, Nat.zero_le _⟩

namespace Climbs

variable {graph : Graph} {below : List String} {current : Option EntityId} {path : List EntityId}

/-- An allowance of one for each entity of a climb suffices for the loop to follow it. -/
theorem climb_eq (climbs : graph.Climbs below current path) {allowance : Nat}
    (enough : path.length ≤ allowance) :
    graph.climb allowance below current = (path.map graph.fullName).reverse ++ below := by
  induction climbs generalizing allowance with
  | @ends below current goesNowhere =>
      cases allowance with
      | zero => rfl
      | succ allowance =>
          cases current with
          | none => rfl
          | some id =>
              unfold climb
              rw [if_neg]
              · rfl
              · rintro ⟨isNamespace, isNew⟩
                simp [goesNowhere id rfl isNamespace] at isNew
  | @rises below id path isNamespace isNew _ inductionHypothesis =>
      obtain ⟨allowance, rfl⟩ : ∃ less, allowance = less + 1 :=
        Nat.exists_eq_succ_of_ne_zero (by rw [List.length_cons] at enough; omega)
      unfold climb
      dsimp only
      rw [if_pos ⟨isNamespace, by simpa using isNew⟩,
        inductionHypothesis (Nat.le_of_succ_le_succ enough)]
      simp

/-- No name is met twice. -/
theorem nodup (climbs : graph.Climbs below current path) :
    (path.map graph.fullName).Nodup ∧ ∀ id ∈ path, graph.fullName id ∉ below := by
  induction climbs with
  | ends => simp
  | @rises below id path _ isNew _ inductionHypothesis =>
      obtain ⟨pathNodup, pathNew⟩ := inductionHypothesis
      rw [List.map_cons, List.nodup_cons, List.forall_mem_cons]
      refine ⟨⟨fun again => ?_, pathNodup⟩, isNew, fun other isMet isOld => ?_⟩
      · obtain ⟨other, isMet, same⟩ := List.mem_map.mp again
        exact pathNew other isMet (same ▸ List.mem_cons_self)
      · exact pathNew other isMet (List.mem_cons_of_mem _ isOld)

/-- Every entity that is climbed over is a namespace. -/
theorem areNamespaces (climbs : graph.Climbs below current path) :
    ∀ id ∈ path, graph.isNamespace id = true := by
  induction climbs with
  | ends => simp
  | rises isNamespace _ _ inductionHypothesis =>
      exact List.forall_mem_cons.mpr ⟨isNamespace, inductionHypothesis⟩

/-- A climb sets out where it stands. -/
theorem head_eq (climbs : graph.Climbs below current path) :
    ∀ id ∈ path.head?, current = some id := by
  cases climbs with
  | ends => simp
  | rises => simp

/-- Each entity on a climb is followed by its parent. -/
theorem isChain (climbs : graph.Climbs below current path) : path.IsChain graph.HasParent := by
  induction climbs with
  | ends => exact .nil
  | rises _ _ further inductionHypothesis =>
      exact List.isChain_cons.mpr ⟨further.head_eq, inductionHypothesis⟩

/-- A climb that goes nowhere stands at no namespace or at one whose name it has met. -/
theorem goesNowhere (climbs : graph.Climbs below current []) :
    ∀ id, current = some id → graph.isNamespace id = true → graph.fullName id ∈ below := by
  cases climbs with
  | ends goesNowhere => exact goesNowhere

/-- Above the last entity there is nothing, a file, or a name that has been met. -/
theorem parent_met (climbs : graph.Climbs below current path) {top parent : EntityId}
    (isTop : path.getLast? = some top) (hasParent : graph.HasParent top parent)
    (isNamespace : graph.isNamespace parent = true) :
    graph.fullName parent ∈ path.map graph.fullName ∨ graph.fullName parent ∈ below := by
  induction climbs with
  | ends => simp at isTop
  | @rises below id path _ _ further inductionHypothesis =>
      rw [List.map_cons, List.mem_cons]
      cases path with
      | nil =>
          obtain rfl : id = top := by simpa using isTop
          exact (List.mem_cons.mp (further.goesNowhere parent hasParent isNamespace)).imp .inl (·)
      | cons next path =>
          rw [List.getLast?_cons_cons] at isTop
          rcases inductionHypothesis isTop with isMet | isMet
          · exact .inl (.inr isMet)
          · exact (List.mem_cons.mp isMet).imp .inl (·)

/-- A climb from a class or module meets it first. -/
theorem exists_eq_cons {id : EntityId} (climbs : graph.Climbs [] (some id) path)
    (isNamespace : graph.isNamespace id = true) : ∃ above, path = id :: above := by
  cases climbs with
  | ends goesNowhere => exact absurd (goesNowhere id rfl isNamespace) List.not_mem_nil
  | rises => exact ⟨_, rfl⟩

/-- One climb sets out from where it stands. -/
theorem unique (climbs : graph.Climbs below current path) {other : List EntityId}
    (otherClimbs : graph.Climbs below current other) : path = other := by
  induction climbs generalizing other with
  | ends goesNowhere =>
      cases otherClimbs with
      | ends => rfl
      | rises isNamespace isNew => exact absurd (goesNowhere _ rfl isNamespace) isNew
  | rises isNamespace isNew _ inductionHypothesis =>
      cases otherClimbs with
      | ends goesNowhere => exact absurd (goesNowhere _ rfl isNamespace) isNew
      | rises _ _ further => rw [inductionHypothesis further]

end Climbs

/-- Parent links between new classes and modules are climbed up to one whose parent, if any,
is a file. -/
theorem climbs_of_isChain {graph : Graph} {path : List EntityId} :
    ∀ {below : List String}, path.IsChain graph.HasParent →
      (∀ id ∈ path, graph.isNamespace id = true ∧ graph.fullName id ∉ below) →
      (path.map graph.fullName).Nodup →
      (∀ top ∈ path.getLast?, ∀ parent, graph.HasParent top parent →
        graph.isNamespace parent = false) →
      graph.Climbs below path.head? path := by
  induction path with
  | nil => exact fun _ _ _ _ => .ends nofun
  | cons id path inductionHypothesis =>
      intro below linked areNew nodup isTop
      obtain ⟨⟨isNamespace, isNew⟩, areNewOn⟩ := List.forall_mem_cons.mp areNew
      obtain ⟨notAgain, nodupOn⟩ := List.nodup_cons.mp nodup
      refine .rises isNamespace isNew ?_
      cases path with
      | nil =>
          refine .ends fun parent hasParent upperNamespace => ?_
          rw [isTop id rfl parent hasParent] at upperNamespace
          exact Bool.noConfusion upperNamespace
      | cons next path =>
          obtain ⟨hasParent, linkedOn⟩ := List.isChain_cons_cons.mp linked
          rw [show (graph.entity id).parent = some next from hasParent]
          refine inductionHypothesis linkedOn (fun other isMet => ?_) nodupOn isTop
          have differs : graph.fullName other ≠ graph.fullName id := fun same =>
            notAgain (same ▸ List.mem_map_of_mem isMet)
          exact ⟨(areNewOn other isMet).1,
            List.not_mem_cons_of_ne_of_not_mem differs (areNewOn other isMet).2⟩

/-- A line of classes and modules from the top down: each of them but the first stands under
its parent, the one before it, and no name occurs twice. -/
structure IsLine (graph : Graph) (line : List EntityId) : Prop where
  linked : line.IsChain fun upper lower => graph.HasParent lower upper
  areNamespaces : ∀ id ∈ line, graph.isNamespace id = true
  distinct : (line.map graph.fullName).Nodup

/-- What a climb met is a line, from the top down. -/
theorem Climbs.isLine {graph : Graph} {below : List String} {current : Option EntityId}
    {path : List EntityId} (climbs : graph.Climbs below current path) :
    graph.IsLine path.reverse where
  linked := List.isChain_reverse.mpr climbs.isChain
  areNamespaces id isMet := climbs.areNamespaces id (List.mem_reverse.mp isMet)
  distinct := by
    rw [List.map_reverse]
    exact List.nodup_reverse.mpr climbs.nodup.1

/-- The full names of entities, as keys. -/
def keysOf (graph : Graph) (line : List EntityId) : List Value :=
  line.map fun id => .text (graph.fullName id)

/-- The keys of a class or module are the names of what a climb from it meets, from the top
down. -/
theorem openKeys_eq_keysOf {graph : Graph} {id : EntityId}
    (isNamespace : graph.isNamespace id = true) {path : List EntityId}
    (climbs : graph.Climbs [] (some id) path) (short : path.length ≤ graph.size + 1)
    (label : Value) : graph.openKeys id label = .ok (graph.keysOf path.reverse) := by
  unfold openKeys keysOf
  rw [if_pos isNamespace, climbs.climb_eq short]
  simp

end DocAtlas.Graph
