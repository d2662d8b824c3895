import DocAtlas.Tree.Node
import DocAtlas.Value.Sorting

/-!
# Trie of file paths

This module holds the directories and pages of a file tree by path segments. A
page ends a path and a directory continues it: no segment of one directory is
both, and an insertion that would make it so is refused and changes nothing. A
page whose address is null counts as absent. Segments are texts unless a path is
given as a list; equal numbers are one segment, and a list or a record is none.
-/

namespace DocAtlas

/-- A page with its address, or a directory with an entry for each segment. -/
inductive FileTrie where
  | page (url : Value)
  | directory (entries : List (Value × FileTrie))
deriving Inhabited

namespace FileTrie

/-- The entries of one directory. -/
abbrev Entries := List (Value × FileTrie)

/-- Why a path does not go into a trie. -/
inductive Collision where
  /-- A page stands on the way, behind `depth` further segments. -/
  | fileOnTheWay (depth : Nat)
  /-- The path ends where a directory stands. -/
  | endsAtDirectory
  /-- The path ends where a page stands. -/
  | alreadyThere
  /-- A page whose address is no text stands on the way. -/
  | notEntered (shape : Shape)
  /-- A list or a record stands where a segment is looked up. -/
  | notSegment (shape : Shape)

/-- The shape of a value that cannot be a segment. -/
def notSegment? : Value → Option Shape
  | .list _ => some .list
  | .record _ => some .record
  | _ => none

/-- The entry of a segment. A page without address counts as absent. -/
def entry? (segment : Value) (entries : Entries) : Option FileTrie :=
  match entries.find? fun entry => Value.same entry.1 segment with
  | some (_, .page .null) => none
  | some (_, trie) => some trie
  | none => none

/-- Sets the entry of a segment where it stands, or at the end. -/
def setEntry (segment : Value) (trie : FileTrie) : Entries → Entries
  | [] => [(segment, trie)]
  | entry :: rest =>
    if Value.same entry.1 segment then (entry.1, trie) :: rest
    else entry :: setEntry segment trie rest

/-- A collision seen from one segment further up. -/
def Collision.deeper : Collision → Collision
  | fileOnTheWay depth => fileOnTheWay (depth + 1)
  | other => other

/-- Inserts a page at the end of a path into the entries of a directory. Directories
that are missing on the way are made before what follows them is looked up. -/
def insert (url : Value) : List Value → Entries → Entries × Except Collision Unit
  | [], entries => (entries, .ok ())
  | [last], entries =>
    match notSegment? last with
    | some shape => (entries, .error (.notSegment shape))
    | none =>
      match entry? last entries with
      | some (.directory _) => (entries, .error .endsAtDirectory)
      | some (.page _) => (entries, .error .alreadyThere)
      | none => (setEntry last (.page url) entries, .ok ())
  | segment :: next :: rest, entries =>
    let enter (inner : Entries) : Entries × Except Collision Unit :=
      let (changed, outcome) := insert url (next :: rest) inner
      (setEntry segment (.directory changed) entries, outcome.mapError Collision.deeper)
    match notSegment? segment with
    | some shape => (entries, .error (.notSegment shape))
    | none =>
      match entry? segment entries with
      | some (.directory inner) => enter inner
      | some (.page (.text _)) => (entries, .error (.fileOnTheWay 0))
      | some (.page other) => (entries, .error (.notEntered other.shape))
      | none => enter []

/-- The texts of segments, from a place of their path on. -/
def textsFrom (place : Nat) : List Value → Except Misfit (List String)
  | [] => .ok []
  | .text name :: rest => (textsFrom (place + 1) rest).map (name :: ·)
  | other :: _ => .error (.notJoined place other.shape)

/-- What a collision on the way along a path is refused for. Its words join the
segments, which have to be texts. -/
def Collision.failure (path : List Value) : Collision → Failure
  | notEntered shape => .misfit (.lacks shape "children")
  | notSegment shape => .misfit (.notKey shape)
  | collision =>
    match textsFrom 0 path with
    | .error misfit => .misfit misfit
    | .ok names =>
      match collision with
      | fileOnTheWay depth => .fault (.blockedByFile names (names.take (depth + 1)))
      | endsAtDirectory => .fault (.blockedByDirectory names)
      | _ => .fault (.duplicate (Text.joinSegments names))

/-- Adds a page by the segments of its path, at least one. -/
def add (segments : List Value) (url : Value) (entries : Entries) : Entries × Checked Unit :=
  if segments.isEmpty then (entries, refuse (.missingField "relative_name" url))
  else
    let (changed, outcome) := insert url segments entries
    (changed, outcome.mapError (Collision.failure segments))

/-- Whether a segment comes strictly before another one, or the misfit between them. -/
def isEntryBefore {α : Type} (left right : Value × α) : Except Misfit Bool :=
  (Value.compareBefore left.1 right.1).checked

/-- What entries give, sorted by segment; the first failure in that order, unless the
segments have none. -/
def inOrder {α : Type} (given : List (Value × Checked α)) : Checked (List α) := do
  let sorted ← (Sorting.sortKeyed (·.1) isEntryBefore given).mapError Failure.misfit
  sorted.mapM (·.2)

mutual

/-- The node of an entry. A page has one only when its address is a text. -/
def toNode (segment : Value) : FileTrie → Checked Node
  | .page (.text url) => .ok (.page segment url)
  | .page other => reject (.lacks other.shape "to_nodes")
  | .directory entries => (inOrder (entryNodes entries)).map (.group segment)

/-- The node of each entry, beside its segment. -/
def entryNodes : Entries → List (Value × Checked Node)
  | [] => []
  | (segment, trie) :: rest => (segment, toNode segment trie) :: entryNodes rest

end

/-- The nodes of a directory, sorted by segment at every level. -/
def toNodes (entries : Entries) : Checked (List Node) :=
  inOrder (entryNodes entries)

end FileTrie

end DocAtlas
