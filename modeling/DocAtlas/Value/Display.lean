import DocAtlas.Decimal.Layout
import DocAtlas.Decimal.Nearest
import DocAtlas.Text.Quoted
import DocAtlas.Value

/-!
# Displayed values

This module writes a value into a message or a name. A text that stands alone is
shown as it is; inside a list or a record it stands between quotes. An integer
with too many digits is not written at all.
-/

namespace DocAtlas.Value

/-- Texts with a comma and a blank between neighbours. -/
def commaSeparated (parts : List String) : String :=
  String.intercalate ", " parts

mutual

/-- A value as it is written inside a list or a record. -/
def literal : Value → String
  | null => "None"
  | bool true => "True"
  | bool false => "False"
  | int number => toString number
  | float number => Decimal.Layout.display.text number
  | text content => Text.quoted content
  | list items => "[" ++ commaSeparated (literals items) ++ "]"
  | record fields => "\x7b" ++ commaSeparated (fieldLiterals fields) ++ "\x7d"
  | moment given => given.literal

/-- The items of a list, each as a literal. -/
def literals : List Value → List String
  | [] => []
  | item :: rest => literal item :: literals rest

/-- The fields of a record, each as a quoted name and a literal. -/
def fieldLiterals : List (String × Value) → List String
  | [] => []
  | (name, value) :: rest => (Text.quoted name ++ ": " ++ literal value) :: fieldLiterals rest

end

/-- A value as it is written when it stands alone. -/
def display : Value → String
  | text content => content
  | moment given => given.text
  | value => literal value

mutual

/-- Whether a value can be written: no integer in it has too many digits. -/
def isWritable : Value → Bool
  | int number => Decimal.isWritable number
  | list items => areWritable items
  | record fields => areWritableFields fields
  | _ => true

/-- Whether all items of a list can be written. -/
def areWritable : List Value → Bool
  | [] => true
  | item :: rest => isWritable item && areWritable rest

/-- Whether all fields of a record can be written. -/
def areWritableFields : List (String × Value) → Bool
  | [] => true
  | (_, value) :: rest => isWritable value && areWritableFields rest

end

@[simp] theorem display_text (content : String) : display (text content) = content := rfl

end DocAtlas.Value
