/-!
# Cursors

This module holds the place that a reader has come to in a text: what remains,
and how many characters stand before it. The lines of a text are counted once its
line ends are alike: a carriage return, with or without a line feed behind it,
becomes one line feed.
-/

namespace DocAtlas.Text

/-- What remains to be read, and how many characters stand before it. -/
structure Cursor where
  position : Nat
  rest : List Char

namespace Cursor

/-- The cursor at the start of a text. -/
def start (chars : List Char) : Cursor := ⟨0, chars⟩

/-- Moves over the given number of characters. -/
def skip (cursor : Cursor) (count : Nat) : Cursor :=
  ⟨cursor.position + count, cursor.rest.drop count⟩

/-- Moves over the characters that stand next and pass a test. -/
def skipWhile (cursor : Cursor) (test : Char → Bool) : Cursor :=
  ⟨cursor.position + (cursor.rest.takeWhile test).length, cursor.rest.dropWhile test⟩

/-- Whether a text stands next. -/
def sees (cursor : Cursor) (text : String) : Bool :=
  text.toList.isPrefixOf cursor.rest

/-- The character that stands next. -/
def next? (cursor : Cursor) : Option Char :=
  cursor.rest.head?

end Cursor

/-- Every line end as one line feed; `behindReturn` says that a carriage return
stands right before. -/
def unifyAfter : (behindReturn : Bool) → List Char → List Char
  | _, [] => []
  | behindReturn, c :: rest =>
    if c = '\r' then '\n' :: unifyAfter true rest
    else if behindReturn && c == '\n' then unifyAfter false rest
    else c :: unifyAfter false rest

/-- Every line end of a text as one line feed. -/
def unifyLineEnds (text : String) : String :=
  String.ofList (unifyAfter false text.toList)

/-- The line and the column of a position, both counted from one. -/
def coordinates (source : List Char) (position : Nat) : Nat × Nat :=
  let before := source.take position
  (before.count '\n' + 1, (before.reverse.takeWhile (· != '\n')).length + 1)

end DocAtlas.Text
