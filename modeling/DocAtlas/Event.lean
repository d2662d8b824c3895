import DocAtlas.Fault

/-!
# Events

This module holds what a run reports while it goes on, each event with its
level, the part that reports it and its wording, and computations that note
events and may fail.
-/

namespace DocAtlas

/-- The levels of events. -/
inductive Level where
  | debug
  | info
  | warning
  | error
deriving DecidableEq, Repr

/-- The number of a level. -/
def Level.number : Level → Nat
  | .debug => 10
  | .info => 20
  | .warning => 30
  | .error => 40

/-- The word for a level. -/
def Level.word : Level → String
  | .debug => "DEBUG"
  | .info => "INFO"
  | .warning => "WARNING"
  | .error => "ERROR"

/-- What a run reports. -/
inductive Event where
  | loadedManifest (path : Path)
  | validated (count : Nat)
  | linked (classes files : Nat)
  | mainPage (relativeName : Value)
  | generating (title : Value) (classes files : Nat)
  | indexing (classes : Nat)
  | skippedUndocumented (count : Nat)
  | indexed (records keys : Nat)
  | buildingTree (classes files : Nat)
  | skippedFileTree (files : Nat)
  | alreadyEmitted (fullName : String)
  | treeSize (nodes : Nat)
  | wrote (path : Path) (bytes : Nat)
  | wouldWrite (path : Path) (size : Nat)
  | aborted (command : String)
  | unexpected (command : String)

namespace Event

/-- The level of an event. -/
def level : Event → Level
  | generating .. | wrote .. | wouldWrite .. => .info
  | unexpected _ => .error
  | _ => .debug

/-- The part that reports an event. -/
def reporter : Event → String
  | loadedManifest _ | linked .. => "searchdoc.entities.loader"
  | validated _ => "searchdoc.entities.validation"
  | mainPage _ | generating .. => "searchdoc.generator"
  | indexing _ | skippedUndocumented _ | indexed .. => "searchdoc.search.builder"
  | buildingTree .. | alreadyEmitted _ | treeSize _ => "searchdoc.tree.builder"
  | skippedFileTree _ => "searchdoc.tree.files"
  | wrote .. | wouldWrite .. => "searchdoc.output.writer"
  | aborted command | unexpected command => "searchdoc.cli." ++ command

/-- A count of classes and a count of files. -/
def bothCounts (classes files : Nat) : String :=
  toString classes ++ " classes/modules and " ++ toString files ++ " files"

/-- The wording of an event. -/
def message : Event → String
  | loadedManifest path => "Loaded manifest " ++ path.text
  | validated count => "Validated " ++ toString count ++ " entities"
  | linked classes files => "Linked " ++ bothCounts classes files
  | mainPage relativeName => "Main page is " ++ relativeName.display
  | generating title classes files =>
    "Generating " ++ title.display ++ " from " ++ bothCounts classes files
  | indexing classes => "Building search index from " ++ toString classes ++ " classes/modules"
  | skippedUndocumented count =>
    "Skipped " ++ toString count ++ " undocumented classes/modules"
  | indexed records keys =>
    "Search index has " ++ toString records ++ " records and " ++ toString keys ++ " name keys"
  | buildingTree classes files => "Building navigation tree from " ++ bothCounts classes files
  | skippedFileTree files => "Skipping file tree for " ++ toString files ++ " file(s)"
  | alreadyEmitted fullName => "Skipping " ++ fullName ++ ": already emitted"
  | treeSize nodes => "Navigation tree has " ++ toString nodes ++ " nodes"
  | wrote path bytes => "Wrote " ++ path.text ++ " (" ++ toString bytes ++ " bytes)"
  | wouldWrite path size =>
    "Dry run: would write " ++ path.text ++ " (" ++ toString size ++ " bytes)"
  | aborted _ => "Run aborted"
  | unexpected _ => "Unexpected failure"

/-- A text with blanks behind it up to a width. -/
def padded (width : Nat) (text : String) : String :=
  text ++ String.ofList (List.replicate (width - text.length) ' ')

/-- The line of an event in a log file, without its time. -/
def line (event : Event) : String :=
  padded 8 event.level.word ++ " " ++ event.reporter ++ ": " ++ event.message

end Event

/-- The events and the result of a computation that notes events and may fail. -/
structure Noted (α : Type) where
  events : List Event
  outcome : Checked α

namespace Noted

/-- A result without events. -/
def ofChecked {α : Type} (outcome : Checked α) : Noted α :=
  ⟨[], outcome⟩

/-- Notes one event. -/
def note (event : Event) : Noted Unit :=
  ⟨[event], .ok ()⟩

/-- Notes events in order. -/
def noteAll (events : List Event) : Noted Unit :=
  ⟨events, .ok ()⟩

/-- One computation after another; a failure ends both. -/
def andThen {α β : Type} (first : Noted α) (next : α → Noted β) : Noted β :=
  match first.outcome with
  | .ok value => ⟨first.events ++ (next value).events, (next value).outcome⟩
  | .error failure => ⟨first.events, .error failure⟩

instance : Monad Noted where
  pure value := ⟨[], .ok value⟩
  bind := andThen

instance : MonadLift (Except Failure) Noted where
  monadLift := ofChecked

end Noted

end DocAtlas
