import DocAtlas.Moment

/-!
# Dynamic values

This module holds the values that a manifest or a settings file may give, and
the three questions asked of a value of unknown shape: whether it counts as
given, what it is called in messages, and which values it lists.
-/

namespace DocAtlas

/-- A value read from a manifest, a settings file or the environment. The fields
of a record keep their order and have distinct names. -/
inductive Value where
  | null
  | bool (truth : Bool)
  | int (number : Int)
  | float (number : Float)
  | text (content : String)
  | list (items : List Value)
  | record (fields : List (String × Value))
  | moment (given : Moment)
deriving Inhabited

/-- The shapes of values. -/
inductive Shape where
  | null
  | bool
  | int
  | float
  | text
  | list
  | record
  | day
  | clock
  | dayAndClock
deriving DecidableEq, Repr

/-- The word that messages use for a shape. -/
def Shape.word : Shape → String
  | .null => "NoneType"
  | .bool => "bool"
  | .int => "int"
  | .float => "float"
  | .text => "str"
  | .list => "list"
  | .record => "dict"
  | .day => "date"
  | .clock => "time"
  | .dayAndClock => "datetime"

/-- The word for a shape behind the family that it belongs to, if it has one. -/
def Shape.fullWord : Shape → String
  | .day => "datetime.date"
  | .clock => "datetime.time"
  | .dayAndClock => "datetime.datetime"
  | shape => shape.word

/-- The shape of a moment. -/
def Moment.shape : Moment → Shape
  | .day _ => .day
  | .clock _ => .clock
  | .both .. => .dayAndClock

namespace Value

/-- The shape of a value. -/
def shape : Value → Shape
  | null => .null
  | bool _ => .bool
  | int _ => .int
  | float _ => .float
  | text _ => .text
  | list _ => .list
  | record _ => .record
  | .moment given => given.shape

/-- A value counts as given unless it is null, false, zero or empty. -/
def isGiven : Value → Bool
  | null => false
  | bool truth => truth
  | int number => number ≠ 0
  | float number => number != 0
  | text content => content ≠ ""
  | list items => !items.isEmpty
  | record fields => !fields.isEmpty
  | moment _ => true

/-- Whether a value is a text. -/
def isText : Value → Bool
  | text _ => true
  | _ => false

/-- The value itself when it is given, and otherwise another one. -/
def orElse (value other : Value) : Value :=
  if value.isGiven then value else other

/-- The field of a list of fields with the given name. -/
def lookup (name : String) (fields : List (String × Value)) : Option Value :=
  (fields.find? fun field => field.1 == name).map (·.2)

/-- The field with the given name, null when there is none. -/
def field (name : String) (fields : List (String × Value)) : Value :=
  (lookup name fields).getD null

/-- Sets a field: an earlier one of the same name is replaced where it stands. -/
def setField (name : String) (value : Value) : List (String × Value) → List (String × Value)
  | [] => [(name, value)]
  | entry :: rest =>
    if entry.1 == name then (name, value) :: rest else entry :: setField name value rest

/-- After a field is set, its name looks it up and every other name finds what it did. -/
theorem lookup_setField (name other : String) (value : Value)
    (fields : List (String × Value)) :
    lookup other (setField name value fields) =
      if other = name then some value else lookup other fields := by
  induction fields with
  | nil =>
    by_cases same : name = other
    · simp [lookup, setField, same]
    · have differs : ¬ other = name := fun equal => same equal.symm
      simp [lookup, setField, same, differs]
  | cons entry rest inductionHypothesis =>
    unfold lookup at inductionHypothesis ⊢
    by_cases here : entry.1 = name
    · by_cases same : name = other
      · simp [setField, here, same]
      · have differs : ¬ other = name := fun equal => same equal.symm
        simp [setField, here, same, differs]
    · by_cases found : entry.1 = other
      · have differs : ¬ other = name := fun equal => here (found.trans equal)
        simp [setField, found, differs]
      · simp [setField, here, found, inductionHypothesis]

/-- The values that a value lists: the items of a list, the characters of a text
and the field names of a record. Other values list nothing. -/
def listed? : Value → Option (List Value)
  | list items => some items
  | text content => some (content.toList.map fun c => text (String.singleton c))
  | record fields => some (fields.map fun entry => text entry.1)
  | _ => none

end Value

end DocAtlas
