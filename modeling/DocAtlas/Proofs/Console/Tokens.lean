import DocAtlas.Console.Markup
import Mathlib.Data.List.Infix

/-!
# Tokens of marked-up texts

The console takes a text apart into tags and the runs between them. This module says that the
tokens of a text spell it, that a tag behind a text is a token of its own, and that a text in
which no tag starts is one run.
-/

namespace DocAtlas.Markup

/-- A closing bracket that is found stands between what is in front of it and what is behind. -/
theorem closing?_eq_some {chars text behind : List Char}
    (found : closing? chars = some (text, behind)) : chars = text ++ ']' :: behind := by
  induction chars generalizing text with
  | nil => cases found
  | cons c rest inductionHypothesis =>
      rw [closing?] at found
      split at found
      · rename_i isClosing
        cases found
        rw [isClosing]
        rfl
      · split at found
        · cases found
        · obtain ⟨inner, isInner, equal⟩ := Option.map_eq_some_iff.mp found
          cases equal
          rw [inductionHypothesis isInner]
          rfl

/-- What does not close a tag itself leaves the closing bracket to what stands in front. -/
theorem closing?_append {chars tail : List Char} (unclosed : closing? tail = none) :
    closing? (chars ++ tail) = (closing? chars).map fun found => (found.1, found.2 ++ tail) := by
  induction chars with
  | nil => exact unclosed
  | cons c chars inductionHypothesis =>
      rw [List.cons_append, closing?, closing?, inductionHypothesis]
      split
      · rfl
      · split
        · rfl
        · cases closing? chars <;> rfl

/-- The first closing bracket is found behind a text without brackets. -/
theorem closing?_append_closing {text : List Char} (noOpening : '[' ∉ text)
    (noClosing : ']' ∉ text) (behind : List Char) :
    closing? (text ++ ']' :: behind) = some (text, behind) := by
  induction text with
  | nil => rfl
  | cons c text inductionHypothesis =>
      rw [List.mem_cons, not_or] at noOpening noClosing
      rw [List.cons_append, closing?, if_neg (Ne.symm noClosing.1), if_neg (Ne.symm noOpening.1),
        inductionHypothesis noOpening.2 noClosing.2]
      rfl

/-- A tag starts with an opening bracket. -/
theorem tag?_of_ne {c : Char} (noBracket : c ≠ '[') (rest : List Char) :
    tag? (c :: rest) = none := by
  unfold tag?
  split
  · rename_i equal
    exact absurd (List.cons.inj equal).1 noBracket
  · rfl

/-- A bracket opens a tag in front of a character that may start one, up to the closing bracket. -/
theorem tag?_bracket (c : Char) (rest : List Char) :
    tag? ('[' :: c :: rest) =
      if startsTag c then (closing? rest).map fun found => (c :: found.1, found.2) else none :=
  rfl

/-- A tag that is found stands in brackets in front of the rest. -/
theorem tag?_eq_some {chars text behind : List Char} (isTag : tag? chars = some (text, behind)) :
    chars = '[' :: (text ++ ']' :: behind) := by
  match chars with
  | [] => cases isTag
  | [c] =>
      unfold tag? at isTag
      split at isTag
      · rename_i equal
        cases equal
      · cases isTag
  | c :: next :: rest =>
      by_cases isBracket : c = '['
      · subst isBracket
        rw [tag?_bracket] at isTag
        split at isTag
        · obtain ⟨inner, isInner, equal⟩ := Option.map_eq_some_iff.mp isTag
          cases equal
          rw [closing?_eq_some isInner]
          rfl
        · cases isTag
      · rw [tag?_of_ne isBracket] at isTag
        cases isTag

/-- A tail in which nothing closes a tag in front of it, and that no bracket makes a tag of. -/
structure IsApart (tail : List Char) : Prop where
  unclosed : closing? tail = none
  noTag : tag? ('[' :: tail) = none

/-- The tag that starts in front of a tail does not reach into it. -/
theorem tag?_append {chars tail : List Char} (given : chars ≠ []) (apart : IsApart tail) :
    tag? (chars ++ tail) = (tag? chars).map fun found => (found.1, found.2 ++ tail) := by
  match chars, given with
  | [c], _ =>
      by_cases isBracket : c = '['
      · rw [isBracket]
        exact apart.noTag
      · rw [tag?_of_ne isBracket, List.singleton_append, tag?_of_ne isBracket]
        rfl
  | c :: next :: rest, _ =>
      by_cases isBracket : c = '['
      · rw [isBracket, List.cons_append, List.cons_append, tag?_bracket, tag?_bracket,
          closing?_append apart.unclosed]
        split
        · cases closing? rest <;> rfl
        · rfl
      · rw [tag?_of_ne isBracket, List.cons_append, tag?_of_ne isBracket]
        rfl

/-- An opening bracket keeps what stands behind it apart. -/
theorem isApart_bracket (rest : List Char) : IsApart ('[' :: rest) :=
  ⟨rfl, rfl⟩

/-- What a token is written as. -/
def Token.written : Token → List Char
  | .run chars => chars
  | .tag backslashes text => lone backslashes ++ '[' :: (text ++ [']'])

/-- Whether a token is a tag. -/
def Token.isTag : Token → Bool
  | .run _ => false
  | .tag .. => true

@[simp] theorem lone_zero : lone 0 = [] := rfl

/-- One more backslash may be counted to what follows. -/
theorem lone_succ_append (backslashes : Nat) (rest : List Char) :
    lone (backslashes + 1) ++ rest = lone backslashes ++ '\\' :: rest := by
  simp [lone, List.replicate_succ']

@[simp] theorem length_lone (backslashes : Nat) : (lone backslashes).length = backslashes :=
  List.length_replicate

@[simp] theorem addRun_nil (rest : List Token) : addRun [] rest = rest := by
  match rest with
  | .run chars :: rest => rfl
  | [] => rfl
  | .tag backslashes text :: rest => rfl

/-- Two runs in front of tokens are one. -/
theorem addRun_addRun (front back : List Char) (rest : List Token) :
    addRun front (addRun back rest) = addRun (front ++ back) rest := by
  match rest with
  | .run chars :: rest => simp [addRun]
  | [] => cases back <;> simp [addRun]
  | .tag backslashes text :: rest => cases back <;> simp [addRun]

/-- A run in front of tokens does not reach a tag behind them. -/
theorem addRun_append_tag (chars : List Char) (tokens : List Token) (backslashes : Nat)
    (text : List Char) (rest : List Token) :
    addRun chars (tokens ++ .tag backslashes text :: rest) =
      addRun chars tokens ++ .tag backslashes text :: rest := by
  match tokens with
  | .run others :: tokens => rfl
  | [] => cases chars <;> rfl
  | .tag backslashes text :: tokens => cases chars <;> rfl

/-- A run is spelled in front of the tokens that it is added to. -/
@[simp] theorem written_addRun (chars : List Char) (tokens : List Token) :
    (addRun chars tokens).flatMap Token.written = chars ++ tokens.flatMap Token.written := by
  match tokens with
  | .run others :: tokens => simp [addRun, Token.written]
  | [] => cases chars <;> simp [addRun, Token.written]
  | .tag backslashes text :: tokens => cases chars <;> simp [addRun, Token.written]

/-- A run adds no tags. -/
@[simp] theorem any_isTag_addRun (chars : List Char) (tokens : List Token) :
    (addRun chars tokens).any Token.isTag = tokens.any Token.isTag := by
  match tokens with
  | .run others :: tokens => rfl
  | [] => cases chars <;> rfl
  | .tag backslashes text :: tokens => cases chars <;> rfl

/-- Backslashes at the end of a text are a run. -/
theorem tokensBehind_nil (backslashes : Nat) :
    tokensBehind backslashes [] = addRun (lone backslashes) [] := by
  rw [tokensBehind]

/-- A backslash is counted to those in front of it. -/
theorem tokensBehind_backslash (backslashes : Nat) (rest : List Char) :
    tokensBehind backslashes ('\\' :: rest) = tokensBehind (backslashes + 1) rest := by
  rw [tokensBehind, if_pos rfl]

/-- A character that starts no tag goes to a run, with the backslashes in front of it. -/
theorem tokensBehind_of_noTag {c : Char} {rest : List Char} (backslashes : Nat)
    (noBackslash : c ≠ '\\') (noTag : tag? (c :: rest) = none) :
    tokensBehind backslashes (c :: rest) =
      addRun (lone backslashes ++ [c]) (tokensBehind 0 rest) := by
  rw [tokensBehind, if_neg noBackslash]
  split
  · rename_i isTag
    rw [noTag] at isTag
    cases isTag
  · rfl

/-- A tag is a token, with the backslashes in front of it. -/
theorem tokensBehind_of_tag {c : Char} {rest text behind : List Char} (backslashes : Nat)
    (noBackslash : c ≠ '\\') (isTag : tag? (c :: rest) = some (text, behind)) :
    tokensBehind backslashes (c :: rest) = .tag backslashes text :: tokensBehind 0 behind := by
  rw [tokensBehind, if_neg noBackslash]
  split
  · rename_i other
    rw [isTag] at other
    cases other
    rfl
  · rename_i noTag
    rw [isTag] at noTag
    cases noTag

/-- The tokens of a text spell it. -/
theorem written_tokensBehind (backslashes : Nat) (chars : List Char) :
    (tokensBehind backslashes chars).flatMap Token.written = lone backslashes ++ chars := by
  fun_induction tokensBehind backslashes chars with
  | case1 backslashes => simp
  | case2 backslashes rest inductionHypothesis => rw [inductionHypothesis, lone_succ_append]
  | case3 backslashes c rest noBackslash text behind isTag inductionHypothesis =>
      rw [List.flatMap_cons, inductionHypothesis, tag?_eq_some isTag]
      simp [Token.written]
  | case4 backslashes c rest noBackslash noTag inductionHypothesis =>
      rw [written_addRun, inductionHypothesis]
      simp

/-- No tag starts in a text. -/
def HasNoTag (chars : List Char) : Prop :=
  ∀ behind, behind <:+ chars → tag? behind = none

/-- No tag starts in an empty text. -/
theorem hasNoTag_nil : HasNoTag [] := by
  intro behind isEnd
  rw [List.suffix_nil.mp isEnd]
  rfl

/-- No tag starts in a text when none starts at its head and none behind. -/
theorem hasNoTag_cons {c : Char} {rest : List Char} :
    HasNoTag (c :: rest) ↔ tag? (c :: rest) = none ∧ HasNoTag rest := by
  constructor
  · intro noTag
    exact ⟨noTag _ (List.suffix_refl _),
      fun behind isEnd => noTag behind (isEnd.trans (List.suffix_cons c rest))⟩
  · rintro ⟨noTagHere, noTagBehind⟩ behind isEnd
    rcases List.suffix_cons_iff.mp isEnd with rfl | isEnd
    · exact noTagHere
    · exact noTagBehind behind isEnd

/-- A text without tags is one run. -/
theorem HasNoTag.tokensBehind_eq {chars : List Char} (noTag : HasNoTag chars)
    (backslashes : Nat) :
    tokensBehind backslashes chars = addRun (lone backslashes ++ chars) [] := by
  induction chars generalizing backslashes with
  | nil => rw [tokensBehind_nil, List.append_nil]
  | cons c rest inductionHypothesis =>
      obtain ⟨noTagHere, noTagBehind⟩ := hasNoTag_cons.mp noTag
      by_cases isBackslash : c = '\\'
      · rw [isBackslash, tokensBehind_backslash, inductionHypothesis noTagBehind,
          lone_succ_append]
      · rw [tokensBehind_of_noTag backslashes isBackslash noTagHere,
          inductionHypothesis noTagBehind, addRun_addRun]
        simp

/-- No tag starts in a text that has none among its tokens. -/
theorem hasNoTag_of_tokensBehind {backslashes : Nat} {chars : List Char}
    (noTags : (tokensBehind backslashes chars).any Token.isTag = false) : HasNoTag chars := by
  fun_induction tokensBehind backslashes chars with
  | case1 backslashes => exact hasNoTag_nil
  | case2 backslashes rest inductionHypothesis =>
      exact hasNoTag_cons.mpr ⟨tag?_of_ne (by decide) rest, inductionHypothesis noTags⟩
  | case3 backslashes c rest noBackslash text behind isTag inductionHypothesis => cases noTags
  | case4 backslashes c rest noBackslash noTag inductionHypothesis =>
      rw [any_isTag_addRun] at noTags
      exact hasNoTag_cons.mpr ⟨noTag, inductionHypothesis noTags⟩

/-- The text of a tag: it starts as one, and has no brackets. -/
structure IsTagText (text : List Char) : Prop where
  starts : text.head?.any startsTag = true
  noOpening : '[' ∉ text
  noClosing : ']' ∉ text

/-- The text of a tag is read back from between its brackets. -/
theorem IsTagText.tag?_eq {text : List Char} (isTag : IsTagText text) (behind : List Char) :
    tag? ('[' :: (text ++ ']' :: behind)) = some (text, behind) := by
  obtain ⟨starts, noOpening, noClosing⟩ := isTag
  cases text with
  | nil => cases starts
  | cons c text =>
      have starts : startsTag c = true := starts
      rw [List.cons_append, tag?_bracket, if_pos starts,
        closing?_append_closing (List.not_mem_of_not_mem_cons noOpening)
          (List.not_mem_of_not_mem_cons noClosing)]
      rfl

/-- A tag behind a text that does not end in a backslash is a token of its own. -/
theorem IsTagText.tokensBehind_append {text : List Char} (isTag : IsTagText text)
    {chars : List Char} (separate : chars.getLast? ≠ some '\\') {backslashes : Nat}
    (counted : chars ≠ [] ∨ backslashes = 0) (behind : List Char) :
    tokensBehind backslashes (chars ++ '[' :: (text ++ ']' :: behind)) =
      tokensBehind backslashes chars ++ .tag 0 text :: tokensBehind 0 behind := by
  have apart := isApart_bracket (text ++ ']' :: behind)
  fun_induction tokensBehind backslashes chars with
  | case1 backslashes =>
      obtain rfl : backslashes = 0 := counted.resolve_left fun given => given rfl
      rw [List.nil_append, tokensBehind_of_tag 0 (by decide) (isTag.tag?_eq behind)]
      rfl
  | case2 backslashes rest inductionHypothesis =>
      have given : rest ≠ [] := by
        rintro rfl
        exact separate rfl
      have separateBehind : rest.getLast? ≠ some '\\' := by
        intro isLast
        exact separate (by rw [List.getLast?_cons, isLast]; rfl)
      rw [List.cons_append, tokensBehind_backslash,
        inductionHypothesis separateBehind (.inl given)]
  | case3 backslashes c rest noBackslash inner others isInner inductionHypothesis =>
      have reaches : tag? (c :: (rest ++ '[' :: (text ++ ']' :: behind))) =
          some (inner, others ++ '[' :: (text ++ ']' :: behind)) := by
        rw [← List.cons_append, tag?_append (List.cons_ne_nil c rest) apart, isInner]
        rfl
      have separateBehind : others.getLast? ≠ some '\\' := by
        intro isLast
        have isSplit : '[' :: (inner ++ ']' :: others) = '[' :: inner ++ [']'] ++ others := by simp
        rw [tag?_eq_some isInner, isSplit] at separate
        exact separate (by rw [List.getLast?_append, isLast]; rfl)
      rw [List.cons_append, tokensBehind_of_tag backslashes noBackslash reaches,
        inductionHypothesis separateBehind (.inr rfl)]
      rfl
  | case4 backslashes c rest noBackslash noTag inductionHypothesis =>
      have noneReaches : tag? (c :: (rest ++ '[' :: (text ++ ']' :: behind))) = none := by
        rw [← List.cons_append, tag?_append (List.cons_ne_nil c rest) apart, noTag]
        rfl
      have separateBehind : rest.getLast? ≠ some '\\' := by
        intro isLast
        exact separate (by rw [List.getLast?_cons, isLast]; rfl)
      rw [List.cons_append, tokensBehind_of_noTag backslashes noBackslash noneReaches,
        inductionHypothesis separateBehind (.inr rfl), addRun_append_tag]

end DocAtlas.Markup
