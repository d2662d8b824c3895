import DocAtlas.Console.Color
import DocAtlas.Text.Segments

/-!
# Styles

This module reads the name of a style and gives its normal form, by which a style
is closed. A style may set effects, two colors and a link; its normal form has
the effects in a fixed order, behind them the colors, and the link last. A name
that is no style is its own normal form, in lower case.
-/

namespace DocAtlas

/-- The effects of a style. -/
inductive Style.Effect where
  | bold
  | dim
  | italic
  | underline
  | blink
  | blink2
  | reverse
  | conceal
  | strike
  | underline2
  | frame
  | encircle
  | overline
deriving DecidableEq, Repr

/-- What a style says. Of an effect that is given twice, the last word counts. -/
structure Style where
  effects : List (Style.Effect × Bool) := []
  color : Option String := none
  background : Option String := none
  link : Option String := none

namespace Style

namespace Effect

/-- All effects, in the order of a normal form. -/
def all : List Effect :=
  [bold, dim, italic, underline, blink, blink2, reverse, conceal, strike, underline2, frame,
    encircle, overline]

/-- The word for an effect. -/
def word : Effect → String
  | bold => "bold"
  | dim => "dim"
  | italic => "italic"
  | underline => "underline"
  | blink => "blink"
  | blink2 => "blink2"
  | reverse => "reverse"
  | conceal => "conceal"
  | strike => "strike"
  | underline2 => "underline2"
  | frame => "frame"
  | encircle => "encircle"
  | overline => "overline"

/-- The short spelling of an effect, if it has one. -/
def short? : Effect → Option String
  | bold => some "b"
  | dim => some "d"
  | italic => some "i"
  | underline => some "u"
  | reverse => some "r"
  | conceal => some "c"
  | strike => some "s"
  | underline2 => some "uu"
  | overline => some "o"
  | _ => none

/-- The effect that a word spells. -/
def ofWord? (spelling : String) : Option Effect :=
  all.find? fun effect => effect.word == spelling || effect.short? == some spelling

end Effect

/-- Why a name is no style. -/
inductive Refusal where
  | noStyle
  | unreadableColor
deriving DecidableEq, Repr

/-- The color that a word names. -/
def colorOf (word : String) : Except Refusal String :=
  match Color.read word with
  | .color name => .ok name
  | .noColor => .error .noStyle
  | .unreadable => .error .unreadableColor

/-- A style with one more effect switched on or off. -/
def setEffect (style : Style) (effect : Effect) (isOn : Bool) : Style :=
  { style with effects := (effect, isOn) :: style.effects }

/-- The style that words add to a style. The words `on`, `not` and `link` need one
more word behind them; an effect behind `not` is spelled in lower case. -/
def ofWords (style : Style) : List String → Except Refusal Style
  | [] => .ok style
  | [word] =>
    let word := Text.lower word
    if ["on", "not", "link"].contains word then .error .noStyle
    else
      match Effect.ofWord? word with
      | some effect => .ok (style.setEffect effect true)
      | none => (colorOf word).map fun color => { style with color := some color }
  | word :: next :: rest =>
    let word := Text.lower word
    if word = "on" then
      match colorOf next with
      | .ok color => ofWords { style with background := some color } rest
      | .error refusal => .error refusal
    else if word = "not" then
      match Effect.ofWord? next with
      | some effect => ofWords (style.setEffect effect false) rest
      | none => .error .noStyle
    else if word = "link" then ofWords { style with link := some next } rest
    else
      match Effect.ofWord? word with
      | some effect => ofWords (style.setEffect effect true) (next :: rest)
      | none =>
        match colorOf word with
        | .ok color => ofWords { style with color := some color } (next :: rest)
        | .error refusal => .error refusal

/-- The words of a name. -/
def words (name : List Char) : List String :=
  let spaced := name.map fun c => if Text.isBlank c then ' ' else c
  ((Text.splitChars ' ' spaced).filter (· ≠ [])).map String.ofList

/-- The word for a style that says nothing. -/
def nothing : String := "none"

/-- The style that a name gives. -/
def read (name : List Char) : Except Refusal Style :=
  let words := words name
  if words = [nothing] then .ok {} else ofWords {} words

/-- What a style says about an effect. -/
def effectWords (style : Style) (effect : Effect) : List String :=
  match style.effects.find? fun given => given.1 == effect with
  | some (_, true) => [effect.word]
  | some (_, false) => ["not", effect.word]
  | none => []

/-- The normal form of a style. -/
def text (style : Style) : String :=
  let words := Effect.all.flatMap style.effectWords ++ style.color.toList ++
    (style.background.toList.flatMap fun color => ["on", color]) ++
    (style.link.toList.flatMap fun target => ["link", target])
  if words.isEmpty then nothing else String.intercalate " " words

/-- The normal form of a name; nothing when a color in it cannot be read. -/
def normalName? (name : List Char) : Option String :=
  match read name with
  | .ok style => some style.text
  | .error .noStyle => some (Text.lower (Text.trim (String.ofList name)))
  | .error .unreadableColor => none

end Style

end DocAtlas
