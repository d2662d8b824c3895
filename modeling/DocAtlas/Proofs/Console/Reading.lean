import DocAtlas.Console
import DocAtlas.Proofs.Console.Tokens

/-!
# Readings of markup

What a command shows depends on the console that it prints on. This module states what is
relied on of a console that reads markup, for literal texts, for texts in a style, for closing
tags with nothing open and for titles of tables: `Console.ReadsMarkup`. All of it is about the
content of what is shown, before the console breaks it into lines. The console that reads tags
and emoji codes by the rules of `DocAtlas.Console.Markup` is one.
-/

namespace DocAtlas

/-- Whether characters between two colons occur that may be the code of an emoji. -/
def Emoji.occurs : List Char → Bool
  | [] => false
  | c :: rest => (c == ':' && (code? rest).isSome) || occurs rest

/-- Whether a character is a control character. -/
def Text.isControl (c : Char) : Bool :=
  c.toNat < 32 || (127 ≤ c.toNat && c.toNat < 160)

namespace Console

/-- A text that means itself: it has no markup to protect, no backslashes, no codes of emoji and
no control characters. -/
structure IsLiteral (console : Console) (text : String) : Prop where
  noMarkup : console.escape text = text
  noBackslash : '\\' ∉ text.toList
  noCode : Emoji.occurs text.toList = false
  noControl : text.toList.any Text.isControl = false

/-- A text between the tags that open and close a style. -/
def inStyle (style text : String) : String :=
  "[" ++ style ++ "]" ++ text ++ "[/" ++ style ++ "]"

/-- The tag that closes something. -/
def closingTag (name : String) : String :=
  "[/" ++ name ++ "]"

/-- The styles in which a build reports. -/
def reportStyles : List String :=
  ["bold green", "yellow"]

/-- What is relied on of a console that reads markup. -/
structure ReadsMarkup (console : Console) : Prop where
  /-- There is no markup to protect in a text without brackets and backslashes. -/
  escape_bracketless {text : String} (noBracket : '[' ∉ text.toList)
    (noBackslash : '\\' ∉ text.toList) : console.escape text = text
  /-- A text without markup shows itself. -/
  render_literal {text : String} (isLiteral : console.IsLiteral text) :
    console.render text = some text
  /-- The tags of a style are not shown. -/
  render_styled {front style text back : String} (isStyle : style ∈ reportStyles)
    (frontLiteral : console.IsLiteral front) (textLiteral : console.IsLiteral text)
    (backLiteral : console.IsLiteral back) :
    console.render (front ++ inStyle style text ++ back) = some (front ++ text ++ back)
  /-- A closing tag with nothing open cannot be shown. -/
  render_closing {front name : String} (frontLiteral : console.IsLiteral front)
    (noOpening : '[' ∉ name.toList) (noClosing : ']' ∉ name.toList) (back : String) :
    console.render (front ++ closingTag name ++ back) = none
  /-- The title of a table is read as every other text is. -/
  title_text (title : String) : console.title? (.text title) = console.render title
  /-- A value that is not given leaves a table without title. -/
  title_missing {value : Value} (notGiven : value.isGiven = false) : console.title? value = some ""

/-- A text without brackets is literal when nothing else in it has a meaning of its own. -/
theorem ReadsMarkup.isLiteral {console : Console} (reads : console.ReadsMarkup) {text : String}
    (meansNothing : '[' ∉ text.toList ∧ '\\' ∉ text.toList ∧
      Emoji.occurs text.toList = false ∧ text.toList.any Text.isControl = false) :
    console.IsLiteral text := by
  obtain ⟨noBracket, noBackslash, noCode, noControl⟩ := meansNothing
  exact ⟨reads.escape_bracketless noBracket noBackslash, noBackslash, noCode, noControl⟩

end Console

/-! ### The console that reads markup -/

/-- A text without codes keeps its characters. -/
theorem Emoji.replaceCodes_eq_self {chars : List Char} (noCode : occurs chars = false) :
    replaceCodes chars = chars := by
  induction chars with
  | nil => rw [replaceCodes]
  | cons c rest inductionHypothesis =>
      obtain ⟨noneHere, noneBehind⟩ := Bool.or_eq_false_iff.mp noCode
      rw [replaceCodes]
      split
      · rw [inductionHypothesis noneBehind]
      · rename_i isColon
        obtain rfl : c = ':' := by simpa using isColon
        have noCodeHere : code? rest = none := by simpa using noneHere
        split
        · rename_i isCode
          rw [noCodeHere] at isCode
          cases isCode
        · rw [inductionHypothesis noneBehind]

namespace Markup

/-- A text without backslashes loses none of its characters. -/
theorem withoutEscapes_eq_self {chars : List Char} (noBackslash : '\\' ∉ chars) :
    withoutEscapes chars = chars := by
  fun_induction withoutEscapes chars with
  | case1 rest inductionHypothesis => exact absurd List.mem_cons_self noBackslash
  | case2 c rest notEscape inductionHypothesis =>
      rw [inductionHypothesis (List.not_mem_of_not_mem_cons noBackslash)]
  | case3 => rfl

/-- Every character is shown that is no control character. -/
theorem isShown_of_not_isControl {c : Char} (noControl : Text.isControl c = false) :
    isShown c = true := by
  simp only [Text.isControl, Bool.or_eq_false_iff, decide_eq_false_iff_not] at noControl
  simp only [isShown, Bool.not_eq_true', List.contains_eq_mem, decide_eq_false_iff_not,
    List.mem_cons, List.not_mem_nil, or_false]
  omega

/-- Characters that mean themselves: no tag starts among them, and none is replaced or dropped. -/
structure IsPlain (chars : List Char) : Prop where
  noTag : HasNoTag chars
  noBackslash : '\\' ∉ chars
  noCode : Emoji.occurs chars = false
  allShown : ∀ c ∈ chars, isShown c = true

/-- A tag takes more characters when it is protected. -/
theorem length_written_le (tokens : List Token) :
    (tokens.flatMap Token.written).length + tokens.countP Token.isTag ≤
      (tokens.flatMap protect).length := by
  induction tokens with
  | nil => exact le_rfl
  | cons token rest inductionHypothesis =>
      rw [List.flatMap_cons, List.flatMap_cons, List.length_append, List.length_append]
      cases token with
      | run chars =>
          rw [List.countP_cons_of_neg (by simp [Token.isTag])]
          show chars.length + _ + _ ≤ chars.length + _
          omega
      | tag backslashes text =>
          rw [List.countP_cons_of_pos rfl]
          have longer : (Token.tag backslashes text).written.length + 1 ≤
              (protect (.tag backslashes text)).length := by
            simp only [Token.written, protect, List.length_append, List.length_cons,
              length_lone]
            omega
          omega

/-- A text that need not be protected has no tags. -/
theorem hasNoTag_of_escape {text : String} (unchanged : escape text = text) :
    HasNoTag text.toList := by
  have spelled : (tokens text).flatMap Token.written = text.toList :=
    written_tokensBehind 0 text.toList
  have bound := length_written_le (tokens text)
  have longer : ((tokens text).flatMap protect).length ≤ (escape text).toList.length := by
    rw [escape, String.toList_ofList]
    split <;> simp
  -- Every tag would have made the text longer.
  rw [spelled] at bound
  rw [unchanged] at longer
  have noTags : (tokens text).countP Token.isTag = 0 := by omega
  have isTagFree : (tokensBehind 0 text.toList).any Token.isTag = false := by
    simpa [tokens] using List.countP_eq_zero.mp noTags
  exact hasNoTag_of_tokensBehind isTagFree

/-- A text without brackets has no tags. -/
theorem hasNoTag_of_bracketless {chars : List Char} (noBracket : '[' ∉ chars) :
    HasNoTag chars := by
  induction chars with
  | nil => exact hasNoTag_nil
  | cons c rest inductionHypothesis =>
      rw [List.mem_cons, not_or] at noBracket
      exact hasNoTag_cons.mpr ⟨tag?_of_ne (Ne.symm noBracket.1) rest,
        inductionHypothesis noBracket.2⟩

/-- A text without tags need not be protected, unless it ends in a backslash. -/
theorem HasNoTag.escape_eq {text : String} (noTag : HasNoTag text.toList)
    (noBackslash : '\\' ∉ text.toList) : escape text = text := by
  have isRun : (tokens text).flatMap protect = text.toList := by
    rw [tokens, noTag.tokensBehind_eq]
    by_cases isEmpty : text.toList = []
    · simp [isEmpty]
    · simp [addRun, isEmpty, protect]
  have notLast : endsWithLoneBackslash text.toList = false := by
    have notInReverse : '\\' ∉ text.toList.reverse := by simpa using noBackslash
    unfold endsWithLoneBackslash
    split
    · rfl
    · rename_i isReversed
      rw [isReversed] at notInReverse
      exact absurd List.mem_cons_self notInReverse
    · rfl
  rw [escape, isRun]
  simp [notLast]

namespace IsPlain

variable {chars : List Char} (plain : IsPlain chars)
include plain

/-- A plain text does not end in a backslash, which would protect a tag behind it. -/
theorem separate : chars.getLast? ≠ some '\\' :=
  fun isLast => plain.noBackslash (List.mem_of_getLast? isLast)

/-- No character of a plain text is dropped. -/
theorem filter_isShown : chars.filter isShown = chars :=
  List.filter_eq_self.mpr plain.allShown

/-- A plain text is one run. -/
theorem tokensBehind_eq : tokensBehind 0 chars = addRun chars [] :=
  plain.noTag.tokensBehind_eq 0

/-- A plain text is shown as it is in front of other tokens. -/
theorem shown_append (rest : List Token) (opened : List Opened) :
    shown (addRun chars [] ++ rest) opened = (shown rest opened).map (chars ++ ·) := by
  by_cases isEmpty : chars = []
  · simp [isEmpty]
  · have isRun : addRun chars [] = [.run chars] := by simp [addRun, isEmpty]
    rw [isRun, List.singleton_append, shown, withoutEscapes_eq_self plain.noBackslash,
      Emoji.replaceCodes_eq_self plain.noCode]

/-- A plain text is shown as it is, whatever is open. -/
theorem shown_eq (opened : List Opened) : shown (tokensBehind 0 chars) opened = some chars := by
  have isShown := plain.shown_append [] opened
  rw [List.append_nil, ← plain.tokensBehind_eq] at isShown
  rw [isShown, shown]
  simp

/-- A tag behind a plain text takes effect on what stands behind it. -/
theorem shown_tag {tag : List Char} (isTag : IsTagText tag) (behind : List Char)
    (opened : List Opened) :
    shown (tokensBehind 0 (chars ++ '[' :: (tag ++ ']' :: behind))) opened =
      (applyTag tag opened).bind fun after =>
        (shown (tokensBehind 0 behind) after).map (chars ++ ·) := by
  rw [isTag.tokensBehind_append plain.separate (.inr rfl), plain.tokensBehind_eq,
    plain.shown_append, shown]
  cases applyTag tag opened <;> simp [lone]

end IsPlain

/-- Nothing can be closed where nothing is open. -/
theorem applyTag_closing_nil (name : List Char) : applyTag ('/' :: name) [] = none := by
  have isClosing : ('/' :: name).takeWhile (· != '=') = '/' :: name.takeWhile (· != '=') := by
    simp
  unfold applyTag
  rw [isClosing]
  split
  · split
    · rfl
    · cases Style.normalName? _ <;> rfl
  · rename_i notClosing
    exact absurd rfl (notClosing _)

end Markup

namespace Console

open Markup

/-- A literal text has only characters that are shown as they are. -/
theorem IsLiteral.isPlain {text : String} (isLiteral : markup.IsLiteral text) :
    IsPlain text.toList where
  noTag := hasNoTag_of_escape isLiteral.noMarkup
  noBackslash := isLiteral.noBackslash
  noCode := isLiteral.noCode
  allShown c isInside := isShown_of_not_isControl <| by
    simpa using List.any_eq_false.mp isLiteral.noControl c isInside

/-- A style of a report is opened by a tag and closed by the one with a slash. -/
theorem reportStyles_open {style : String} (isStyle : style ∈ reportStyles) :
    IsTagText style.toList ∧ IsTagText ('/' :: style.toList) ∧
      ∃ opened, applyTag style.toList [] = some opened ∧
        applyTag ('/' :: style.toList) opened = some [] := by
  simp only [reportStyles, List.mem_cons, List.not_mem_nil, or_false] at isStyle
  rcases isStyle with rfl | rfl
  · exact ⟨⟨by decide, by decide, by decide⟩, ⟨by decide, by decide, by decide⟩,
      [⟨"bold green", []⟩], by decide +kernel, by decide +kernel⟩
  · exact ⟨⟨by decide, by decide, by decide⟩, ⟨by decide, by decide, by decide⟩,
      [⟨"yellow", []⟩], by decide +kernel, by decide +kernel⟩

theorem render_markup (text : String) : markup.render text = Markup.render text := rfl

/-- The console that reads markup reads it as it is relied on. -/
theorem markup_readsMarkup : markup.ReadsMarkup where
  escape_bracketless noBracket noBackslash :=
    (hasNoTag_of_bracketless noBracket).escape_eq noBackslash
  render_literal {text} isLiteral := by
    rw [render_markup, Markup.render, tokens, isLiteral.isPlain.shown_eq, Option.map_some,
      isLiteral.isPlain.filter_isShown, String.ofList_toList]
  render_styled {front style text back} isStyle frontLiteral textLiteral backLiteral := by
    obtain ⟨isOpening, isClosing, opened, opens, closes⟩ := reportStyles_open isStyle
    have spelled : (front ++ inStyle style text ++ back).toList =
        front.toList ++ '[' :: (style.toList ++ ']' ::
          (text.toList ++ '[' :: ('/' :: style.toList ++ ']' :: back.toList))) := by
      simp [inStyle]
    have isShown : shown (tokens (front ++ inStyle style text ++ back)) [] =
        some (front.toList ++ (text.toList ++ back.toList)) := by
      rw [tokens, spelled, frontLiteral.isPlain.shown_tag isOpening, opens, Option.bind_some,
        textLiteral.isPlain.shown_tag isClosing, closes, Option.bind_some,
        backLiteral.isPlain.shown_eq]
      rfl
    rw [render_markup, Markup.render, isShown, Option.map_some, List.filter_append,
      List.filter_append, frontLiteral.isPlain.filter_isShown, textLiteral.isPlain.filter_isShown,
      backLiteral.isPlain.filter_isShown]
    simp [String.append_assoc]
  render_closing {front name} frontLiteral noOpening noClosing back := by
    have isClosing : IsTagText ('/' :: name.toList) :=
      ⟨rfl, List.not_mem_cons_of_ne_of_not_mem (by decide) noOpening,
        List.not_mem_cons_of_ne_of_not_mem (by decide) noClosing⟩
    have spelled : (front ++ closingTag name ++ back).toList =
        front.toList ++ '[' :: ('/' :: name.toList ++ ']' :: back.toList) := by
      simp [closingTag]
    rw [render_markup, Markup.render, tokens, spelled,
      frontLiteral.isPlain.shown_tag isClosing, applyTag_closing_nil]
    rfl
  title_text title := rfl
  title_missing {value} notGiven := by
    cases value with
    | text title =>
        have isEmpty : title = "" := by simpa [Value.isGiven] using notGiven
        rw [isEmpty]
        decide +kernel
    | _ => simp [markup, markupTitle?, notGiven]

end Console

end DocAtlas
