import DocAtlas.Event
import Mathlib.Data.List.Forall2

/-!
# Checked computations

This module takes computations that may fail apart: when a sequence of them has a
result, and what that result is made of. A bound on the failures of the parts is one on those
of the whole.
-/

namespace DocAtlas

@[simp] theorem Checked.ok_bind {α β ε : Type} (value : α) (next : α → Except ε β) :
    Except.ok value >>= next = next value := rfl

/-- Two computations in sequence succeed when both do. -/
theorem Checked.bind_eq_ok {α β ε : Type} {first : Except ε α} {next : α → Except ε β}
    {result : β} :
    first >>= next = .ok result ↔ ∃ value, first = .ok value ∧ next value = .ok result := by
  cases first with
  | error failure => simp [bind, Except.bind]
  | ok value => simp [bind, Except.bind]

/-- Two computations in sequence fail as the first of them that does. -/
theorem Checked.bind_eq_error {α β ε : Type} {first : Except ε α} {next : α → Except ε β}
    {failure : ε} :
    first >>= next = .error failure ↔
      first = .error failure ∨ ∃ value, first = .ok value ∧ next value = .error failure := by
  cases first with
  | error other => simp [bind, Except.bind]
  | ok value => simp [bind, Except.bind]

/-- A check in front of a computation has to succeed. -/
theorem Checked.check_bind_eq_ok {β ε : Type} {check : Except ε Unit} {next : Unit → Except ε β}
    {result : β} : check >>= next = .ok result ↔ check = .ok () ∧ next () = .ok result := by
  rw [Checked.bind_eq_ok]
  exact ⟨fun ⟨_, passes, further⟩ => ⟨passes, further⟩,
    fun ⟨passes, further⟩ => ⟨(), passes, further⟩⟩

/-- What follows two computations that fail alike is mapped to the same when it is for all
their results. -/
theorem Checked.map_bind_eq_map_bind {α β γ ε : Type} {first second : Except ε α}
    {next following : α → Except ε β} {read : β → γ}
    (sameFailure : first.map (fun _ => ()) = second.map fun _ => ())
    (sameNext : ∀ value other, (next value).map read = (following other).map read) :
    (first >>= next).map read = (second >>= following).map read := by
  cases first with
  | error failure =>
      cases second with
      | error other => exact congrArg Except.error (Except.error.inj sameFailure)
      | ok other => exact absurd sameFailure nofun
  | ok value =>
      cases second with
      | error other => exact absurd sameFailure nofun
      | ok other => exact sameNext value other

/-- A list of computations succeeds when each does, with one result for each. -/
theorem Checked.mapM_eq_ok {α β ε : Type} {step : α → Except ε β} {items : List α}
    {results : List β} :
    items.mapM step = .ok results ↔
      List.Forall₂ (fun item result => step item = .ok result) items results := by
  induction items generalizing results with
  | nil =>
      rw [List.mapM_nil, List.forall₂_nil_left_iff]
      exact ⟨fun equal => (Except.ok.inj equal).symm, fun equal => congrArg Except.ok equal.symm⟩
  | cons item rest inductionHypothesis =>
      rw [List.mapM_cons, Checked.bind_eq_ok, List.forall₂_cons_left_iff]
      constructor
      · rintro ⟨result, isResult, others⟩
        obtain ⟨results, areResults, equal⟩ := Checked.bind_eq_ok.mp others
        exact ⟨result, results, isResult, inductionHypothesis.mp areResults,
          (Except.ok.inj equal).symm⟩
      · rintro ⟨result, results, isResult, areResults, rfl⟩
        exact ⟨result, isResult, Checked.bind_eq_ok.mpr
          ⟨results, inductionHypothesis.mpr areResults, rfl⟩⟩

/-- Every failure of a computation is one of those allowed. -/
def Checked.FailsWithin {α ε : Type} (allowed : ε → Prop) (computation : Except ε α) : Prop :=
  ∀ failure, computation = .error failure → allowed failure

namespace Checked.FailsWithin

variable {α β ε : Type} {allowed : ε → Prop}

/-- What succeeds fails within every bound. -/
theorem ok (value : α) : FailsWithin allowed (.ok value) :=
  fun _ fails => nomatch fails

/-- A failure that is allowed stays within the bound. -/
theorem error {failure : ε} (isAllowed : allowed failure) :
    FailsWithin allowed (.error failure : Except ε α) :=
  fun _ fails => Except.error.inj fails ▸ isAllowed

/-- A wider bound holds where a narrower one does. -/
theorem mono {others : ε → Prop} {computation : Except ε α}
    (within : FailsWithin allowed computation)
    (wider : ∀ failure, allowed failure → others failure) : FailsWithin others computation :=
  fun failure fails => wider failure (within failure fails)

/-- Computations in sequence fail within a bound that each of them keeps to. -/
theorem bind {first : Except ε α} {next : α → Except ε β} (firstWithin : FailsWithin allowed first)
    (nextWithin : ∀ value, first = .ok value → FailsWithin allowed (next value)) :
    FailsWithin allowed (first >>= next) := by
  intro failure fails
  rcases Checked.bind_eq_error.mp fails with fails | ⟨value, succeeds, fails⟩
  · exact firstWithin failure fails
  · exact nextWithin value succeeds failure fails

/-- What is read off a result does not make a computation fail. -/
theorem map {computation : Except ε α} (within : FailsWithin allowed computation) (read : α → β) :
    FailsWithin allowed (computation.map read) := by
  cases computation with
  | error failure => exact error (within failure rfl)
  | ok value => exact ok (read value)

/-- Failures that are put in other words are allowed if all words are. -/
theorem mapError {ε' : Type} {word : ε' → ε} (areAllowed : ∀ failure, allowed (word failure))
    (computation : Except ε' α) : FailsWithin allowed (computation.mapError word) := by
  cases computation with
  | error failure => exact error (areAllowed failure)
  | ok value => exact ok value

/-- Steps over the items of a list fail within a bound that every step keeps to. -/
theorem mapM {step : α → Except ε β} {items : List α}
    (stepWithin : ∀ item ∈ items, FailsWithin allowed (step item)) :
    FailsWithin allowed (items.mapM step) := by
  induction items with
  | nil =>
      rw [List.mapM_nil]
      exact ok []
  | cons item rest inductionHypothesis =>
      rw [List.forall_mem_cons] at stepWithin
      rw [List.mapM_cons]
      refine bind stepWithin.1 fun result _ => ?_
      exact bind (inductionHypothesis stepWithin.2) fun results _ => ok (result :: results)

end Checked.FailsWithin

end DocAtlas
