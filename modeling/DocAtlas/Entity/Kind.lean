/-!
# Kinds of entity

This module names what documentation can be about.
-/

namespace DocAtlas

/-- What an entity is. -/
inductive Kind where
  | classDef
  | moduleDef
  | file
deriving DecidableEq, Repr, Inhabited

/-- The word for a kind in manifests, records and messages. -/
def Kind.word : Kind → String
  | .classDef => "class"
  | .moduleDef => "module"
  | .file => "file"

/-- Classes and modules form the class tree; files do not. -/
def Kind.isNamespace : Kind → Bool
  | .classDef => true
  | .moduleDef => true
  | .file => false

/-- The kind of a class or module that a word of a manifest names. -/
def Kind.ofNamespaceWord? : String → Option Kind
  | "class" => some .classDef
  | "module" => some .moduleDef
  | _ => none

end DocAtlas
