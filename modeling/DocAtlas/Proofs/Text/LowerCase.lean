import DocAtlas.Text.LowerCase
import DocAtlas.Text.Segments
import Mathlib.Algebra.Ring.Nat
import Mathlib.Data.List.Infix
import Mathlib.Data.List.TakeWhile

/-!
# Lower-casing in pieces

Every character but the capital sigma is lowered without a look at its neighbours, and a
capital sigma looks only whether it is final. The lower-case form of a piece of a text
therefore stands in that of the whole wherever its sigmas are final in the piece exactly
when they are final in the whole. Cutting blanks off the ends of a text is such a case,
since the rule for sigmas stops at a blank.
-/

namespace DocAtlas.Text

/-- The capital sigma. -/
def capitalSigma : Char :=
  Char.ofNat 0x3A3

/-- Each capital sigma of a piece is final in the piece exactly when it is final between what
stands before the piece and behind it. -/
def KeepsSigmas (before piece after : List Char) : Prop :=
  ∀ front back, piece = front ++ capitalSigma :: back →
    LowerCase.isFinalSigma (before ++ front).reverse (back ++ after) =
      LowerCase.isFinalSigma front.reverse back

namespace LowerCase

/-- The lower-case form of a piece between what stands before it, read backwards, and what
stands after it. -/
def lowerWithin (after : List Char) : (before piece : List Char) → List Char
  | _, [] => []
  | before, c :: rest =>
    lowerBetween before c (rest ++ after) ++ lowerWithin after (c :: before) rest

/-- A text is lowered piece by piece. -/
theorem lowerAfter_append (before piece after : List Char) :
    lowerAfter before (piece ++ after) =
      lowerWithin after before piece ++ lowerAfter (piece.reverse ++ before) after := by
  induction piece generalizing before with
  | nil => rfl
  | cons c rest inductionHypothesis =>
      rw [List.cons_append, lowerAfter, lowerWithin, inductionHypothesis, List.reverse_cons,
        List.append_assoc, List.append_assoc]
      rfl

/-- A text with nothing behind it is lower-cased as one at the end. -/
theorem lowerWithin_nil (before piece : List Char) :
    lowerWithin [] before piece = lowerAfter before piece := by
  have whole := lowerAfter_append before piece []
  simpa [lowerAfter] using whole.symm

/-- Only a capital sigma looks around it. -/
theorem lowerBetween_eq {c : Char} {before after otherBefore otherAfter : List Char}
    (sameSigma : c = capitalSigma →
      isFinalSigma before after = isFinalSigma otherBefore otherAfter) :
    lowerBetween before c after = lowerBetween otherBefore c otherAfter := by
  unfold lowerBetween
  by_cases isSigma : c.toNat = 0x3A3
  · have isCapital : c = capitalSigma := Char.toNat_inj.mp isSigma
    rw [if_pos isSigma, if_pos isSigma, sameSigma isCapital]
  · rw [if_neg isSigma, if_neg isSigma]

/-- No character vanishes in lower case. -/
theorem lowerBetween_ne_nil (before : List Char) (c : Char) (after : List Char) :
    lowerBetween before c after ≠ [] := by
  unfold lowerBetween lowerAlone
  split
  · simp
  · split
    · simp
    · split <;> simp

/-- How many characters the lower-case form of a character has. -/
def width (c : Char) : Nat :=
  (lowerAlone c).length

/-- Every character is one wide at least in lower case. -/
theorem width_pos (c : Char) : 0 < width c := by
  unfold width lowerAlone
  split
  · simp
  · split <;> simp

/-- What stands around a character does not decide how long its lower-case form is. -/
theorem length_lowerBetween (before : List Char) (c : Char) (after : List Char) :
    (lowerBetween before c after).length = width c := by
  unfold lowerBetween
  by_cases isSigma : c.toNat = 0x3A3
  · have isShifted : lowerAlone c = [shifted c] := by
      rw [lowerAlone, if_neg (by omega), if_neg (by omega)]
    rw [if_pos isSigma, width, isShifted, List.length_singleton, List.length_singleton]
  · rw [if_neg isSigma, width]

/-- The length of a text in lower case is the sum of the widths of its characters. -/
theorem length_lowerAfter (before chars : List Char) :
    (lowerAfter before chars).length = (chars.map width).sum := by
  induction chars generalizing before with
  | nil => rfl
  | cons c rest inductionHypothesis =>
      rw [lowerAfter, List.length_append, length_lowerBetween, inductionHypothesis, List.map_cons,
        List.sum_cons]

end LowerCase

/-- A text is as long in lower case as its characters are one by one. -/
theorem length_lowerChars (chars : List Char) :
    (lowerChars chars).length = (chars.map LowerCase.width).sum :=
  LowerCase.length_lowerAfter [] chars

/-- A text that something stands in front of is shorter in lower case than both together. -/
theorem length_lowerChars_lt {front : List Char} (given : front ≠ []) (back : List Char) :
    (lowerChars back).length < (lowerChars (front ++ back)).length := by
  obtain ⟨c, rest, rfl⟩ := List.exists_cons_of_ne_nil given
  have isWide := LowerCase.width_pos c
  rw [length_lowerChars, length_lowerChars, List.map_append, List.sum_append, List.map_cons,
    List.sum_cons]
  omega

/-- A piece that keeps its sigmas is lowered within the whole as it is alone. -/
theorem lowerWithin_eq {before piece after : List Char} (keeps : KeepsSigmas before piece after) :
    LowerCase.lowerWithin after before.reverse piece = lowerChars piece := by
  have onwards : ∀ rest front, piece = front.reverse ++ rest →
      LowerCase.lowerWithin after (front ++ before.reverse) rest =
        LowerCase.lowerWithin [] front rest := by
    intro rest
    induction rest with
    | nil => exact fun _ _ => rfl
    | cons c rest inductionHypothesis =>
        intro front split
        have sameSigma : c = capitalSigma →
            LowerCase.isFinalSigma (front ++ before.reverse) (rest ++ after) =
              LowerCase.isFinalSigma front (rest ++ []) := by
          rintro rfl
          simpa using keeps front.reverse rest split
        have others := inductionHypothesis (c :: front) (by simpa using split)
        unfold LowerCase.lowerWithin
        rw [LowerCase.lowerBetween_eq sameSigma]
        exact congrArg _ others
  have start := onwards piece [] rfl
  rw [List.nil_append, LowerCase.lowerWithin_nil] at start
  exact start

/-- The lower-case form of a piece that keeps its sigmas stands in that of the whole. -/
theorem lowerChars_infix {before piece after : List Char}
    (keeps : KeepsSigmas before piece after) :
    lowerChars piece <:+: lowerChars (before ++ piece ++ after) := by
  refine ⟨LowerCase.lowerWithin (piece ++ after) [] before,
    LowerCase.lowerAfter (piece.reverse ++ before.reverse) after, ?_⟩
  unfold lowerChars
  rw [List.append_assoc, List.append_assoc, LowerCase.lowerAfter_append, List.append_nil,
    LowerCase.lowerAfter_append, lowerWithin_eq keeps]
  rfl

/-- A text that is not empty is not in lower case either. -/
theorem lowerChars_ne_nil {chars : List Char} (given : chars ≠ []) : lowerChars chars ≠ [] := by
  cases chars with
  | nil => exact absurd rfl given
  | cons c rest =>
      unfold lowerChars LowerCase.lowerAfter
      exact List.append_ne_nil_of_left_ne_nil (LowerCase.lowerBetween_ne_nil _ _ _) _

/-- The runs `(first, last)` of code points that are white space. -/
def blankRuns : List (Nat × Nat) :=
  [(9, 13), (28, 32), (0x85, 0x85), (0xA0, 0xA0), (0x1680, 0x1680), (0x2000, 0x200A),
    (0x2028, 0x2029), (0x202F, 0x202F), (0x205F, 0x205F), (0x3000, 0x3000)]

/-- A blank is in one of the runs of blanks. -/
theorem exists_blankRun {c : Char} (blank : isBlank c = true) :
    ∃ run ∈ blankRuns, run.1 ≤ c.toNat ∧ c.toNat ≤ run.2 := by
  simp only [isBlank, Bool.or_eq_true, Bool.and_eq_true, decide_eq_true_eq, beq_iff_eq] at blank
  simp only [blankRuns, List.exists_mem_cons_iff, List.not_mem_nil, false_and, exists_false,
    or_false]
  omega

/-- Looking a character up in ranges is asking each of them. -/
theorem inRanges_eq (ranges : Array (Nat × Nat)) (c : Char) :
    LowerCase.inRanges ranges c =
      ranges.toList.any fun range => range.1 ≤ c.toNat && c.toNat ≤ range.2 := by
  rw [LowerCase.inRanges, Array.any_toList]

/-- No range holds a blank when each lies apart from the runs of white space. -/
theorem inRanges_of_isBlank {ranges : Array (Nat × Nat)}
    (apart : ∀ range ∈ ranges.toList, ∀ run ∈ blankRuns, range.2 < run.1 ∨ run.2 < range.1)
    {c : Char} (blank : isBlank c = true) : LowerCase.inRanges ranges c = false := by
  rw [inRanges_eq, List.any_eq_false]
  intro range isRange
  obtain ⟨run, isRun, isAbove, isBelow⟩ := exists_blankRun blank
  have isApart := apart range isRange run isRun
  simp only [Bool.and_eq_true, decide_eq_true_eq]
  omega

/-- The rule for sigmas does not look past a blank. -/
theorem isIgnorable_of_isBlank {c : Char} (blank : isBlank c = true) :
    LowerCase.isIgnorable c = false :=
  inRanges_of_isBlank (by decide +kernel) blank

/-- The rule for sigmas takes no blank for a letter. -/
theorem isCased_of_isBlank {c : Char} (blank : isBlank c = true) : LowerCase.isCased c = false :=
  inRanges_of_isBlank (by decide +kernel) blank

/-- Blanks at the far end hide nothing that the rule for sigmas would meet. -/
theorem meetsCased_append {chars blanks : List Char} (areBlank : ∀ c ∈ blanks, isBlank c = true) :
    LowerCase.meetsCased (chars ++ blanks) = LowerCase.meetsCased chars := by
  unfold LowerCase.meetsCased
  rw [List.dropWhile_append]
  cases others : chars.dropWhile LowerCase.isIgnorable with
  | cons c rest => rfl
  | nil =>
      cases blanks with
      | nil => rfl
      | cons blank blanks =>
          have isBlank := areBlank blank List.mem_cons_self
          rw [List.isEmpty_nil, if_pos rfl,
            List.dropWhile_cons_of_neg (by simp [isIgnorable_of_isBlank isBlank])]
          exact isCased_of_isBlank isBlank

/-- A text is its trimmed form between blanks. -/
theorem exists_trimChars (chars : List Char) :
    ∃ front back, chars = front ++ trimChars chars ++ back ∧
      (∀ c ∈ front, isBlank c = true) ∧ ∀ c ∈ back, isBlank c = true := by
  let rest := chars.dropWhile isBlank
  have fromFront : chars.takeWhile isBlank ++ rest = chars := List.takeWhile_append_dropWhile
  have fromBack : rest.reverse.takeWhile isBlank ++ rest.reverse.dropWhile isBlank =
      rest.reverse := List.takeWhile_append_dropWhile
  have isRest : trimChars chars ++ (rest.reverse.takeWhile isBlank).reverse = rest := by
    rw [← List.reverse_reverse rest, ← fromBack, List.reverse_append]
    simp [trimChars, rest, fromBack]
  refine ⟨chars.takeWhile isBlank, (rest.reverse.takeWhile isBlank).reverse, ?_,
    fun c isFront => List.mem_takeWhile_imp isFront, fun c isBack => ?_⟩
  · rw [List.append_assoc, isRest, fromFront]
  · exact List.mem_takeWhile_imp (List.mem_reverse.mp isBack)

/-- A text keeps its sigmas between blanks. -/
theorem keepsSigmas_of_blanks {before after : List Char} (chars : List Char)
    (beforeBlank : ∀ c ∈ before, isBlank c = true) (afterBlank : ∀ c ∈ after, isBlank c = true) :
    KeepsSigmas before chars after := by
  intro front back _
  unfold LowerCase.isFinalSigma
  rw [List.reverse_append, meetsCased_append afterBlank,
    meetsCased_append fun c isBefore => beforeBlank c (List.mem_reverse.mp isBefore)]

/-- The lower-case form of a trimmed text stands in that of the text. -/
theorem lowerChars_trimChars_infix (chars : List Char) :
    lowerChars (trimChars chars) <:+: lowerChars chars := by
  obtain ⟨front, back, split, frontBlank, backBlank⟩ := exists_trimChars chars
  have stands := lowerChars_infix (keepsSigmas_of_blanks (trimChars chars) frontBlank backBlank)
  rwa [← split] at stands

/-- Only blanks are trimmed away altogether. -/
theorem trimChars_ne_nil {chars : List Char} (given : ∃ c ∈ chars, isBlank c = false) :
    trimChars chars ≠ [] := by
  intro isNil
  obtain ⟨c, isChar, isVisible⟩ := given
  obtain ⟨front, back, split, frontBlank, backBlank⟩ := exists_trimChars chars
  rw [isNil, List.append_nil] at split
  rw [split] at isChar
  have blank : isBlank c = true :=
    (List.mem_append.mp isChar).elim (frontBlank c) (backBlank c)
  rw [isVisible] at blank
  exact Bool.noConfusion blank

end DocAtlas.Text
