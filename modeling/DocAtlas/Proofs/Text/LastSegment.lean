import DocAtlas.Text.Segments
import Mathlib.Data.String.Basic

/-!
# Last segments

The last segment of a text is what stands behind the last occurrence of a separator, or
the whole text where the separator does not occur. This module says so without the
search from the end, and shows that the search finds the last segment.
-/

namespace DocAtlas.Text

/-- A text is the last segment of another one: it is the whole text or stands behind a
separator, and nothing shorter stands behind a separator. -/
structure IsLastSegment (separator text segment : String) : Prop where
  stands : segment = text ∨ ∃ front, text = front ++ separator ++ segment
  shortest : ∀ front back, text = front ++ separator ++ back → segment.length ≤ back.length

/-- The search from the end fails where the separator does not occur. -/
theorem afterLast?_eq_none {separator text : List Char} (nonempty : separator ≠ [])
    (missing : afterLast? separator text = none) (front back : List Char) :
    text ≠ front ++ separator ++ back := by
  induction text generalizing front with
  | nil =>
      intro equal
      simp [nonempty] at equal
  | cons c rest inductionHypothesis =>
      unfold afterLast? at missing
      cases later : afterLast? separator rest with
      | some found => simp [later] at missing
      | none =>
          simp only [later, ite_eq_right_iff, reduceCtorEq, imp_false,
            List.isPrefixOf_iff_prefix] at missing
          intro equal
          cases front with
          | nil => exact missing ⟨back, equal.symm⟩
          | cons d front =>
              rw [List.cons_append, List.cons_append, List.cons.injEq] at equal
              exact inductionHypothesis later front equal.2

/-- What the search from the end finds stands behind a separator, and nothing shorter
does. -/
theorem afterLast?_eq_some {separator text found : List Char} (nonempty : separator ≠ [])
    (isFound : afterLast? separator text = some found) :
    (∃ front, text = front ++ separator ++ found) ∧
      ∀ front back, text = front ++ separator ++ back → found.length ≤ back.length := by
  induction text with
  | nil => simp [afterLast?] at isFound
  | cons c rest inductionHypothesis =>
      unfold afterLast? at isFound
      cases later : afterLast? separator rest with
      | some other =>
          simp only [later, Option.some.injEq] at isFound
          subst isFound
          obtain ⟨⟨front, stands⟩, shortest⟩ := inductionHypothesis later
          refine ⟨⟨c :: front, by simp [stands]⟩, fun front back equal => ?_⟩
          cases front with
          | nil =>
              -- An occurrence at the head leaves at least what is behind a later one.
              have whole := congrArg List.length equal
              have behind := congrArg List.length stands
              simp only [List.length_cons, List.length_append, List.length_nil] at whole behind
              omega
          | cons d front =>
              rw [List.cons_append, List.cons_append, List.cons.injEq] at equal
              exact shortest front back equal.2
      | none =>
          simp only [later, Option.ite_none_right_eq_some, Option.some.injEq,
            List.isPrefixOf_iff_prefix] at isFound
          obtain ⟨⟨back, equal⟩, rfl⟩ := isFound
          refine ⟨⟨[], by rw [← equal]; simp⟩, fun front other occurs => ?_⟩
          cases front with
          | nil =>
              rw [← equal] at occurs ⊢
              simp at occurs
              simp [occurs]
          | cons d front =>
              rw [List.cons_append, List.cons_append, List.cons.injEq] at occurs
              exact absurd occurs.2 (afterLast?_eq_none nonempty later front other)

/-- The last part of a text is its last segment. -/
theorem lastPart_isLastSegment {separator : String} (nonempty : separator ≠ "") (text : String) :
    IsLastSegment separator text (lastPart separator text) := by
  have nonemptyList : separator.toList ≠ [] := fun equal =>
    nonempty (String.toList_eq_nil_iff.mp equal)
  unfold lastPart
  cases found : afterLast? separator.toList text.toList with
  | some segment =>
      obtain ⟨⟨front, stands⟩, shortest⟩ := afterLast?_eq_some nonemptyList found
      refine ⟨.inr ⟨String.ofList front, ?_⟩, fun front back equal => ?_⟩
      · rw [← String.toList_inj]
        simpa using stands
      · rw [← String.toList_inj] at equal
        have bound := shortest front.toList back.toList (by simpa using equal)
        rw [String.length_toList] at bound
        simpa using bound
  | none =>
      refine ⟨.inl rfl, fun front back equal => ?_⟩
      rw [← String.toList_inj] at equal
      exact absurd (by simpa using equal)
        (afterLast?_eq_none nonemptyList found front.toList back.toList)

/-- A text has one last segment. -/
theorem IsLastSegment.unique {separator text segment other : String} (nonempty : separator ≠ "")
    (isLast : IsLastSegment separator text segment)
    (isOtherLast : IsLastSegment separator text other) : segment = other := by
  have positive : 0 < separator.length := by
    rw [← String.length_toList, List.length_pos_iff]
    exact fun equal => nonempty (String.toList_eq_nil_iff.mp equal)
  -- The whole text is longer than anything behind a separator in it.
  have sameIfWhole : ∀ {left right : String}, IsLastSegment separator text left →
      IsLastSegment separator text right → left = text → left = right := by
    rintro left right leftLast rightLast rfl
    rcases rightLast.stands with rfl | ⟨front, stands⟩
    · rfl
    · have bound := leftLast.shortest front right stands
      have whole := congrArg String.length stands
      simp only [String.length_append] at whole
      omega
  rcases isLast.stands with whole | ⟨front, stands⟩
  · exact sameIfWhole isLast isOtherLast whole
  · rcases isOtherLast.stands with whole | ⟨otherFront, otherStands⟩
    · exact (sameIfWhole isOtherLast isLast whole).symm
    · have sameLength : segment.length = other.length :=
        Nat.le_antisymm (isLast.shortest otherFront other otherStands)
          (isOtherLast.shortest front segment stands)
      rw [otherStands, ← String.toList_inj] at stands
      simp only [String.toList_append] at stands
      have ends := List.append_inj_right' stands
        (by rw [String.length_toList, String.length_toList, sameLength])
      exact String.toList_inj.mp ends.symm

end DocAtlas.Text
