import DocAtlas.Json.Printer

/-!
# Nodes of the navigation tree

This module holds the three kinds of node and their wire form. All kinds share
one array of four items: a name, a path, a third item, and the nodes below. The
third item of a class or module is its inheritance suffix; that of a group is its
label.
-/

namespace DocAtlas

/-- A node of the navigation tree. A class or module that has no
page shows the empty path. -/
inductive Node where
  | entity (name path : Value) (suffix : String) (children : List Node)
  | group (label : Value) (children : List Node)
  | page (name : Value) (url : String)
deriving Inhabited

namespace Node

/-- The nodes below a node. -/
def children : Node → List Node
  | entity _ _ _ children => children
  | group _ children => children
  | page _ _ => []

mutual

/-- The wire form of a node. -/
def wire : Node → Value
  | entity name path suffix children =>
    .list [name, path, .text suffix, .list (wires children)]
  | group label children => .list [.text "", .text "", label, .list (wires children)]
  | page name url => .list [name, .text url, .text "", .list []]

/-- The wire forms of nodes, in order. -/
def wires : List Node → List Value
  | [] => []
  | node :: rest => wire node :: wires rest

end

mutual

/-- How many nodes stand at or below a node. -/
def size : Node → Nat
  | entity _ _ _ children => 1 + sizes children
  | group _ children => 1 + sizes children
  | page _ _ => 1

/-- How many nodes stand at or below the nodes of a list. -/
def sizes : List Node → Nat
  | [] => 0
  | node :: rest => size node + sizes rest

end

/-- A node counts itself and the nodes below it. -/
theorem size_eq (node : Node) : node.size = 1 + sizes node.children := by
  cases node <;> rfl

/-- The sizes of two lists of nodes add up. -/
@[simp] theorem sizes_append (first second : List Node) :
    sizes (first ++ second) = sizes first + sizes second := by
  induction first with
  | nil => simp [sizes]
  | cons node rest inductionHypothesis => simp [sizes, inductionHypothesis, Nat.add_assoc]

/-- Nodes have the same size in reverse. -/
@[simp] theorem sizes_reverse (nodes : List Node) : sizes nodes.reverse = sizes nodes := by
  induction nodes with
  | nil => rfl
  | cons node rest inductionHypothesis =>
    simp [sizes, inductionHypothesis, Nat.add_comm]

/-- Counts the nodes on a stack and those below them, beyond the number counted so far. The
node on top, which comes first, is counted, and those below it are put in its place, the
last of them on top. -/
def countFrom (counted : Nat) : List Node → Nat
  | [] => counted
  | node :: rest => countFrom (counted + 1) (node.children.reverse ++ rest)
termination_by stack => sizes stack
decreasing_by
  rw [sizes_append, sizes_reverse, sizes, size_eq]
  omega

/-- How many nodes a forest has. -/
def count (nodes : List Node) : Nat :=
  countFrom 0 nodes.reverse

/-- A forest as compact JSON. -/
def dump (nodes : List Node) : String :=
  Json.compact (.list (wires nodes))

end Node

end DocAtlas
