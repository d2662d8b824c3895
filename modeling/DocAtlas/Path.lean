import DocAtlas.Text.Segments

/-!
# POSIX paths

This module holds paths in normal form: an optional root and the components that
name something. Lone points, doubled slashes and trailing slashes leave no
trace; exactly two leading slashes are a root of their own. A double point is a
component like any other.
-/

namespace DocAtlas

/-- Where a path starts. -/
inductive Path.Root where
  | none
  | slash
  | doubleSlash
deriving DecidableEq, Repr

/-- A path in normal form. -/
structure Path where
  root : Path.Root
  components : List String
deriving DecidableEq, Repr

namespace Path

/-- The root that a text starts with. -/
def rootOf : List Char → Root
  | '/' :: '/' :: '/' :: _ => .slash
  | '/' :: '/' :: _ => .doubleSlash
  | '/' :: _ => .slash
  | _ => .none

/-- The path that a text spells. -/
def ofString (text : String) : Path :=
  ⟨rootOf text.toList, Text.segments text⟩

/-- The text of a root. -/
def Root.text : Root → String
  | .none => ""
  | .slash => "/"
  | .doubleSlash => "//"

/-- The text of a path; the path without root and components is a lone point. -/
def text (path : Path) : String :=
  let written := path.root.text ++ Text.joinSegments path.components
  if written = "" then "." else written

/-- Whether a path has a root. -/
def isAbsolute (path : Path) : Bool :=
  path.root ≠ .none

/-- Whether a path holds a null character. No place of a file system is spelled so. -/
def hasNull (path : Path) : Bool :=
  path.components.any fun component => component.toList.contains (Char.ofNat 0)

/-- A path below another one; a path with a root stands alone. -/
def join (base path : Path) : Path :=
  if path.isAbsolute then path else ⟨base.root, base.components ++ path.components⟩

/-- The last component, empty when there is none. -/
def name (path : Path) : String :=
  path.components.getLast?.getD ""

/-- The path without its last component. -/
def parent (path : Path) : Path :=
  ⟨path.root, path.components.dropLast⟩

end Path

end DocAtlas
