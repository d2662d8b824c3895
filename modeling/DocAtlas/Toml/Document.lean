import DocAtlas.Toml.Problem
import DocAtlas.Value

/-!
# TOML documents under construction

This module holds a document while its statements are taken in: its tables, and
which names may not be opened or changed any more. A name that an inline value
was given to is frozen with everything below it; a table that was declared or
passed through by a dotted key may not be declared again.
-/

namespace DocAtlas.Toml

/-- The fields of a table. -/
abbrev Table := List (String × Value)

/-- Changes the table behind a key, creating the tables on the way. With `enter`
set, an array stands for the last of its tables. Nothing when a value that is no
table stands on the way, or when the change fails. -/
def changeTable (enter : Bool) (change : Table → Option Table) : Key → Table → Option Table
  | [], table => change table
  | part :: rest, table =>
    match Value.lookup part table with
    | none => do
      let inner ← changeTable enter change rest []
      pure (Value.setField part (.record inner) table)
    | some (.record inner) => do
      let inner ← changeTable enter change rest inner
      pure (Value.setField part (.record inner) table)
    | some (.list items) =>
      match enter, items.getLast? with
      | true, some (.record inner) => do
        let inner ← changeTable enter change rest inner
        pure (Value.setField part (.list (items.dropLast ++ [.record inner])) table)
      | _, _ => none
    | some _ => none

/-- Sets a field that a table does not have yet. -/
def addField (name : String) (value : Value) (table : Table) : Option Table :=
  match Value.lookup name table with
  | some _ => none
  | none => some (Value.setField name value table)

/-- Appends an empty table to the array of a name, or starts the array. -/
def appendTable (name : String) (table : Table) : Option Table :=
  match Value.lookup name table with
  | none => some (Value.setField name (.list [.record []]) table)
  | some (.list items) => some (Value.setField name (.list (items ++ [.record []])) table)
  | some _ => none

/-- A document under construction. -/
structure Document where
  table : Table := []
  /-- Keys of inline values: nothing at or below them changes any more. -/
  frozen : List Key := []
  /-- Keys of tables that may not be declared again. -/
  declared : List Key := []
  /-- Keys that count as declared from the next header on. -/
  pending : List Key := []
  /-- The table that key/value pairs go to. -/
  header : Key := []

namespace Document

/-- Whether a key stands at or below a frozen one. -/
def isFrozen (document : Document) (key : Key) : Bool :=
  !key.isEmpty && document.frozen.any fun other => other.isPrefixOf key

/-- Whether a key was declared. -/
def isDeclared (document : Document) (key : Key) : Bool :=
  !key.isEmpty && document.declared.contains key

/-- Makes pending keys count as declared. -/
def settle (document : Document) : Document :=
  { document with declared := document.pending ++ document.declared, pending := [] }

/-- Declares a table. -/
def declareTable (document : Document) (key : Key) : Except Problem Document :=
  if document.isDeclared key || document.isFrozen key then .error (.declaredTwice key)
  else
    match changeTable true some key document.table with
    | none => .error .overwritesValue
    | some table =>
      .ok { document with table, declared := key :: document.declared, header := key }

/-- Declares one more table of an array. What was declared below the array before
may be declared again. -/
def declareArrayTable (document : Document) (key : Key) : Except Problem Document :=
  if document.isFrozen key then .error (.immutable key)
  else
    match changeTable true (appendTable (key.getLast?.getD "")) key.dropLast document.table with
    | none => .error .overwritesValue
    | some table =>
      .ok
        { document with
          table
          frozen := document.frozen.filter fun other => !key.isPrefixOf other
          declared := key :: document.declared.filter fun other => !key.isPrefixOf other
          header := key }

/-- The tables that a dotted key passes through, from the header on. -/
def passedThrough (header key : Key) : List Key :=
  (List.range (key.length - 1)).map fun count => header ++ key.take (count + 1)

/-- Takes a key/value pair into the table of the header. -/
def addPair (document : Document) (key : Key) (value : Value) : Except Problem Document :=
  let passed := passedThrough document.header key
  let owner := document.header ++ key.dropLast
  match passed.find? document.isDeclared with
  | some other => .error (.redefined other)
  | none =>
    if document.isFrozen owner then .error (.immutable owner)
    else
      match changeTable true (addField (key.getLast?.getD "") value) owner document.table with
      | none => .error .overwritesValue
      | some table =>
        let full := document.header ++ key
        .ok
          { document with
            table
            pending := passed ++ document.pending
            frozen := match value with
              | .record _ | .list _ => full :: document.frozen
              | _ => document.frozen }

end Document

end DocAtlas.Toml
