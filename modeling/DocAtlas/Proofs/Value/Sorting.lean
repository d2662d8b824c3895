import DocAtlas.Proofs.Checked
import DocAtlas.Value.Sorting
import Mathlib.Data.List.InsertIdx

/-!
# What sorting keeps

A sort by a comparison that may fail, and that need not be an order, gives the things back that
it was given, each as often. Nothing is said about their order here.
-/

namespace DocAtlas.Sorting

variable {α ε : Type} {isBefore : Test α ε}

/-- What a run takes and what it leaves are the things that were there. -/
theorem takeRun_perm {isFalling : Bool} {last : α} {taken items after others : List α}
    (runs : takeRun isBefore isFalling last taken items = .ok (after, others)) :
    (after ++ others).Perm (taken ++ items) := by
  induction items generalizing last taken with
  | nil =>
      cases runs
      exact List.Perm.refl _
  | cons item rest inductionHypothesis =>
      obtain ⟨answer, -, runs⟩ := Checked.bind_eq_ok.mp runs
      split at runs
      · exact (inductionHypothesis runs).trans List.perm_middle.symm
      · cases runs
        exact List.Perm.refl _

/-- A leading run and what stands behind it are the items. -/
theorem leadingRun_perm {items run others : List α}
    (runs : leadingRun isBefore items = .ok (run, others)) : (run ++ others).Perm items := by
  match items, runs with
  | [], rfl => exact List.Perm.refl _
  | [_], rfl => exact List.Perm.refl _
  | first :: second :: rest, runs =>
      obtain ⟨isFalling, -, runs⟩ := Checked.bind_eq_ok.mp runs
      obtain ⟨⟨taken, behind⟩, takes, runs⟩ := Checked.bind_eq_ok.mp runs
      have perm : (taken ++ behind).Perm (first :: second :: rest) :=
        (takeRun_perm takes).trans (List.Perm.swap first second rest)
      cases isFalling with
      | true =>
          cases runs
          exact perm
      | false =>
          cases runs
          exact (taken.reverse_perm.append_right _).trans perm

/-- The place found by halving is none behind the end. -/
theorem placeOf_le {item : α} {sorted : Array α} {low high place : Nat} (inside : low ≤ high)
    (found : placeOf isBefore item sorted low high = .ok place) : place ≤ high := by
  fun_induction placeOf isBefore item sorted low high with
  | case1 low high less middle other isThere isSmaller inductionHypothesis =>
      have := inductionHypothesis (by omega) found
      omega
  | case2 low high less middle other isThere isNoSmaller inductionHypothesis =>
      exact inductionHypothesis (by omega) found
  | case3 => cases found
  | case4 => cases found; exact inside
  | case5 => cases found; exact inside

/-- Inserting items loses none. -/
theorem insertAll_perm {items : List α} {sorted after : Array α}
    (inserts : insertAll isBefore items sorted = .ok after) :
    after.toList.Perm (sorted.toList ++ items) := by
  induction items generalizing sorted with
  | nil =>
      cases inserts
      simp
  | cons item rest inductionHypothesis =>
      obtain ⟨place, found, inserts⟩ := Checked.bind_eq_ok.mp inserts
      have inside : place ≤ sorted.size := placeOf_le (Nat.zero_le _) found
      have inserted : (sorted.insertIdxIfInBounds place item).toList.Perm
          (item :: sorted.toList) := by
        rw [Array.insertIdxIfInBounds, dif_pos inside, Array.toList_insertIdx]
        exact List.perm_insertIdx item sorted.toList (by simpa using inside)
      refine (inductionHypothesis inserts).trans ((inserted.append_right rest).trans ?_)
      exact List.perm_middle.symm

/-- A sort gives back what it is given. -/
theorem sort_perm {items sorted : List α} (sorts : sort isBefore items = .ok sorted) :
    sorted.Perm items := by
  obtain ⟨⟨run, rest⟩, runs, sorts⟩ := Checked.bind_eq_ok.mp sorts
  obtain ⟨after, inserts, sorts⟩ := Checked.bind_eq_ok.mp sorts
  cases sorts
  exact (insertAll_perm inserts).trans (leadingRun_perm runs)

/-- Sorting by key loses no item. -/
theorem sortKeyed_perm {key : α → Value} {items sorted : List α}
    (sorts : sortKeyed key isBefore items = .ok sorted) : sorted.Perm items := by
  unfold sortKeyed at sorts
  split at sorts
  · cases sorts
    exact List.mergeSort_perm _ _
  · exact sort_perm sorts

end DocAtlas.Sorting
