import DocAtlas.Console.Markup
import DocAtlas.Value

/-!
# Consoles

This module says what commands print and what they ask of the console that they print
on: to protect a text from being read as markup, to read a text as markup, and to put
a title above a table. What is printed is content: where its lines are broken at the
width of the console, how far a tab reaches and how a title is centred is layout, and
no part of it. `Console.markup` is the console that reads the markup of
`DocAtlas.Console.Markup`.
-/

namespace DocAtlas

/-- A label with what stands indented below it. -/
inductive Outline where
  | mk (label : String) (children : List Outline)
deriving Inhabited

/-- What a command prints in one piece. A table without title has an empty one. -/
inductive Printed where
  | line (text : String)
  | table (title : String) (header : Option (List String)) (rows : List (List String))
  | outline (root : Outline)

/-- What commands ask of a console. -/
structure Console where
  /-- The marked-up text that stands for a text as it is. -/
  escape : String → String
  /-- The text that a marked-up text shows; nothing when it cannot be shown. -/
  render : String → Option String
  /-- The text that a value shows as the title of a table: an empty one when the table
  has no title, and nothing when it cannot be shown. -/
  title? : Value → Option String

namespace Console

/-- The title of a table: a text is read as markup, and a table may have none. -/
def markupTitle? : Value → Option String
  | .text title => Markup.render title
  | value => if value.isGiven then none else some ""

/-- The console that reads markup. -/
def markup : Console where
  escape := Markup.escape
  render := Markup.render
  title? := markupTitle?

end Console

end DocAtlas
