import DocAtlas.Console.Emoji
import DocAtlas.Console.Literal
import DocAtlas.Console.Style
import DocAtlas.Text.Alphanumeric

/-!
# Console markup

This module reads the markup that the console interprets in every text. A tag
between square brackets opens a style, and a tag with a slash closes one. Two
backslashes in front of a tag stand for one, and a tag behind a single backslash
is text. `Markup.escape` protects the tags of a text; `Markup.render` gives the
text that is shown, with emoji in the place of their codes, or nothing when a tag
closes a style that is not open or an action whose arguments are no literal, or opens
a style whose color cannot be read. A style is read even when it stands over nothing, as
on a console that breaks no lines and cuts no blanks off.
-/

namespace DocAtlas.Markup

/-- Whether the text of a tag may start with a character. -/
def startsTag (c : Char) : Bool :=
  c.isLower || c == '#' || c == '/' || c == '@'

/-- What stands in front of the next closing bracket, and what stands behind it.
An opening bracket may not come first. -/
def closing? : List Char → Option (List Char × List Char)
  | [] => none
  | c :: rest =>
    if c = ']' then some ([], rest)
    else if c = '[' then none
    else (closing? rest).map fun found => (c :: found.1, found.2)

/-- The text of the tag that stands next, and what stands behind it. -/
def tag? : List Char → Option (List Char × List Char)
  | '[' :: c :: rest =>
    if startsTag c then (closing? rest).map fun found => (c :: found.1, found.2) else none
  | _ => none

/-- What stands behind a closing bracket is shorter. -/
theorem length_behind_closing {chars : List Char} {found : List Char × List Char}
    (closed : closing? chars = some found) : found.2.length < chars.length := by
  induction chars generalizing found with
  | nil => simp [closing?] at closed
  | cons c rest inductionHypothesis =>
    rw [closing?] at closed
    split at closed
    · cases closed; simp
    · split at closed
      · cases closed
      · obtain ⟨inner, isInner, rfl⟩ := Option.map_eq_some_iff.1 closed
        have := inductionHypothesis isInner
        simp only [List.length_cons]
        omega

/-- What stands behind a tag is shorter. -/
theorem length_behind_tag {chars : List Char} {found : List Char × List Char}
    (isTag : tag? chars = some found) : found.2.length < chars.length := by
  unfold tag? at isTag
  split at isTag
  · split at isTag
    · obtain ⟨inner, isInner, rfl⟩ := Option.map_eq_some_iff.1 isTag
      have := length_behind_closing isInner
      simp only [List.length_cons]
      omega
    · cases isTag
  · cases isTag

/-- Characters outside of tags, or a tag with the number of backslashes in front of
it. -/
inductive Token where
  | run (chars : List Char)
  | tag (backslashes : Nat) (text : List Char)
deriving DecidableEq, Repr

/-- Characters outside of tags in front of tokens. -/
def addRun (chars : List Char) : List Token → List Token
  | .run others :: rest => .run (chars ++ others) :: rest
  | rest => if chars.isEmpty then rest else .run chars :: rest

/-- Backslashes outside of tags. -/
def lone (backslashes : Nat) : List Char :=
  List.replicate backslashes '\\'

/-- The tokens of characters that stand behind some backslashes. -/
def tokensBehind (backslashes : Nat) (chars : List Char) : List Token :=
  match chars with
  | [] => addRun (lone backslashes) []
  | c :: rest =>
    if c = '\\' then tokensBehind (backslashes + 1) rest
    else
      match _isTag : tag? (c :: rest) with
      | some (text, behind) => .tag backslashes text :: tokensBehind 0 behind
      | none => addRun (lone backslashes ++ [c]) (tokensBehind 0 rest)
termination_by chars.length
decreasing_by
  · simp
  · exact length_behind_tag _isTag
  · simp

/-- The tokens of a text. -/
def tokens (text : String) : List Token :=
  tokensBehind 0 text.toList

/-- How a token is written so that it is shown as it is. -/
def protect : Token → List Char
  | .run chars => chars
  | .tag backslashes text => lone (2 * backslashes + 1) ++ '[' :: text ++ [']']

/-- Whether characters end with exactly one backslash. -/
def endsWithLoneBackslash (chars : List Char) : Bool :=
  match chars.reverse with
  | '\\' :: '\\' :: _ => false
  | '\\' :: _ => true
  | _ => false

/-- A text with its tags protected. A lone backslash at the end is doubled, so that
it does not protect a tag that follows. -/
def escape (text : String) : String :=
  let escaped := (tokens text).flatMap protect
  String.ofList (if endsWithLoneBackslash escaped then escaped ++ ['\\'] else escaped)

/-- A style that is open, by its normal name, or an action with its parameters. -/
structure Opened where
  name : String
  parameters : List Char
deriving DecidableEq, Repr

/-- Whether a character may stand in the name of what an action calls. -/
def isNamePart (c : Char) : Bool :=
  Text.isAlphanumeric c || c == '_' || c == '.'

/-- The arguments in the parameters of an action: what stands in parentheses behind a
name, nothing in parentheses for a name alone, and otherwise the parameters themselves. -/
def argumentsOf (parameters : List Char) : List Char :=
  let inner := Text.trimChars parameters
  match inner.dropWhile isNamePart with
  | [] => ['(', ')']
  | '(' :: rest =>
    if rest.getLast? = some ')' ∧ !rest.contains '\n' then '(' :: rest else inner
  | _ => inner

/-- Whether something that is open may be closed: the arguments of an action have to
be a literal. -/
def Opened.mayClose (opened : Opened) : Bool :=
  !"@".toList.isPrefixOf opened.name.toList || opened.parameters.isEmpty ||
    Literal.holds (argumentsOf opened.parameters)

/-- What is open when one of several is closed, if it may be. -/
def close (closed : Opened) (opened : List Opened) : Option (List Opened) :=
  if closed.mayClose then some (opened.erase closed) else none

/-- What is open behind a tag, the innermost first; nothing when the tag closes what is
not open or may not be closed, or opens what cannot be read. Parameters stand behind an
equals sign. -/
def applyTag (text : List Char) (opened : List Opened) : Option (List Opened) :=
  match text.takeWhile (· != '=') with
  | '/' :: name =>
    if Text.trimChars name = [] then opened.head?.bind fun closed => close closed opened
    else do
      let name ← Style.normalName? name
      let closed ← opened.find? fun other => other.name == name
      close closed opened
  | name => do
    let name ← Style.normalName? name
    let parameters := (text.dropWhile (· != '=')).drop 1
    -- A style is read once more when it is drawn, with its parameters behind its name.
    let _ ← Style.normalName? (name.toList ++ ' ' :: parameters)
    pure (⟨name, parameters⟩ :: opened)

/-- Characters without the backslashes in front of opening brackets. -/
def withoutEscapes : List Char → List Char
  | '\\' :: '[' :: rest => '[' :: withoutEscapes rest
  | c :: rest => c :: withoutEscapes rest
  | [] => []

/-- The characters that tokens show. -/
def shown : List Token → (opened : List Opened) → Option (List Char)
  | [], _ => some []
  | .run chars :: rest, opened =>
    (shown rest opened).map (Emoji.replaceCodes (withoutEscapes chars) ++ ·)
  | .tag backslashes text :: rest, opened =>
    let kept := lone (backslashes / 2)
    if backslashes % 2 = 1 then
      (shown rest opened).map fun chars =>
        kept ++ Emoji.replaceCodes ('[' :: text ++ [']']) ++ chars
    else
      match applyTag text opened with
      | some opened => (shown rest opened).map (kept ++ ·)
      | none => none

/-- Whether the console shows a character: bell, backspace, the vertical feeds and
the carriage return are dropped. -/
def isShown (c : Char) : Bool :=
  !([7, 8, 11, 12, 13].contains c.toNat)

/-- The text that a marked-up text shows. -/
def render (text : String) : Option String :=
  (shown (tokens text) []).map fun chars => String.ofList (chars.filter isShown)

end DocAtlas.Markup
