import DocAtlas.Value

/-!
# Search records

This module holds the flat records of a search index. A method is a record of
its own that names its owner, and is found by its bare name as well as by its
qualified one.
-/

namespace DocAtlas

/-- What a search can find: an entity by its page, or a method by its anchor. -/
inductive SearchRecord where
  | entity (type fullName : String) (path : Value)
  | method (owner name : String) (summary anchorUrl : Value)
deriving Inhabited

namespace SearchRecord

/-- The qualified name of a method. -/
def qualified (owner name : String) : String :=
  owner ++ "#" ++ name

/-- The keys that a record is found by, in their spelling. -/
def keys : SearchRecord → List String
  | entity _ fullName _ => [fullName]
  | method owner name _ _ => [qualified owner name, name]

/-- The type that a record shows. -/
def type : SearchRecord → String
  | entity type _ _ => type
  | method .. => "method"

/-- The address that a record leads to. -/
def url : SearchRecord → Value
  | entity _ _ path => path
  | method _ _ _ anchorUrl => anchorUrl

/-- The wire form of a record. -/
def wire : SearchRecord → Value
  | entity type fullName path =>
    .record [("type", .text type), ("fullName", .text fullName), ("path", path)]
  | method owner name summary anchorUrl =>
    .record [("type", .text "method"), ("owningFullName", .text owner),
      ("methodName", .text name), ("summary", summary), ("anchorUrl", anchorUrl)]

end SearchRecord

end DocAtlas
