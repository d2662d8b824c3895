import DocAtlas.Decimal.Nearest
import DocAtlas.Text.Cursor
import DocAtlas.Text.Quoted

/-!
# Problems of a TOML text

This module names what a TOML text is refused for, with the wording of each
problem and of the place it is reported at.
-/

namespace DocAtlas.Toml

/-- A dotted key: its parts, outermost first. -/
abbrev Key := List String

/-- What a TOML text is refused for. -/
inductive Problem where
  | invalidStatement
  | expectedLineEnd
  | expectedText (text : String)
  | foundInvalid (c : Char)
  | illegal (c : Char)
  | declaredTwice (key : Key)
  | overwritesValue
  | expectedTableEnd
  | expectedArrayTableEnd
  | immutable (key : Key)
  | redefined (key : Key)
  | expectedEquals
  | invalidKeyStart
  | unclosedArray
  | duplicateInlineKey (name : String)
  | unclosedInlineTable
  | unescapedBackslash
  | invalidHex
  | notScalar
  | unterminatedText
  | invalidMoment
  | invalidValue
  | tooManyDigits (count : Nat)

/-- A key in a message: its quoted parts in brackets, with a comma behind a lone one. -/
def keyText (key : Key) : String :=
  match key with
  | [part] => "(" ++ Text.quoted part ++ ",)"
  | parts => "(" ++ String.intercalate ", " (parts.map Text.quoted) ++ ")"

/-- The wording of a problem. -/
def Problem.message : Problem → String
  | invalidStatement => "Invalid statement"
  | expectedLineEnd => "Expected newline or end of document after a statement"
  | expectedText text => "Expected " ++ Text.quoted text
  | foundInvalid c => "Found invalid character " ++ Text.quoted (String.singleton c)
  | illegal c => "Illegal character " ++ Text.quoted (String.singleton c)
  | declaredTwice key => "Cannot declare " ++ keyText key ++ " twice"
  | overwritesValue => "Cannot overwrite a value"
  | expectedTableEnd => "Expected ']' at the end of a table declaration"
  | expectedArrayTableEnd => "Expected ']]' at the end of an array declaration"
  | immutable key => "Cannot mutate immutable namespace " ++ keyText key
  | redefined key => "Cannot redefine namespace " ++ keyText key
  | expectedEquals => "Expected '=' after a key in a key/value pair"
  | invalidKeyStart => "Invalid initial character for a key part"
  | unclosedArray => "Unclosed array"
  | duplicateInlineKey name => "Duplicate inline table key " ++ Text.quoted name
  | unclosedInlineTable => "Unclosed inline table"
  | unescapedBackslash => "Unescaped '\\' in a string"
  | invalidHex => "Invalid hex value"
  | notScalar => "Escaped character is not a Unicode scalar value"
  | unterminatedText => "Unterminated string"
  | invalidMoment => "Invalid date or datetime"
  | invalidValue => "Invalid value"
  | tooManyDigits count => Decimal.tooManyDigits (some count)

/-- A problem and the position it is reported at. -/
structure Refusal where
  problem : Problem
  position : Nat

/-- What reading one part gives: the part and the cursor behind it. -/
abbrev Reading (α : Type) := Except Refusal (α × Text.Cursor)

/-- A refusal at the place of a cursor. -/
def refuseAt {α : Type} (cursor : Text.Cursor) (problem : Problem) : Except Refusal α :=
  .error ⟨problem, cursor.position⟩

/-- The words for a position in a source. -/
def placeText (source : List Char) (position : Nat) : String :=
  if source.length ≤ position then "end of document"
  else
    let (line, column) := Text.coordinates source position
    "line " ++ toString line ++ ", column " ++ toString column

/-- The text of a refusal, with the place of its position in the source. An integer
with too many digits is refused without its place. -/
def Refusal.message (refusal : Refusal) (source : List Char) : String :=
  match refusal.problem with
  | .tooManyDigits _ => refusal.problem.message
  | problem => problem.message ++ " (at " ++ placeText source refusal.position ++ ")"

end DocAtlas.Toml
