import DocAtlas.Entity.Kind
import DocAtlas.Path
import DocAtlas.Value.Display

/-!
# Faults

This module holds the causes for which a run is refused, each with its message,
its details and the status that a command exits with. The wording of every cause
is in `Fault.message` and `Fault.details`.
-/

namespace DocAtlas

/-- The families that causes belong to. -/
inductive Family where
  | general
  | configuration
  | entity
  | generation
deriving DecidableEq, Repr

/-- The cause of a refusal. -/
inductive Fault where
  /-- A refusal given by its family and its words only. -/
  | stated (family : Family) (message : String) (details : List (String × Value))
  /-- The manifest is not a record. -/
  | manifestNotRecord
  /-- The manifest at a path is no JSON text. -/
  | manifestUnreadable (path : Path) (reason : String)
  /-- A class record names a kind that classes do not have. -/
  | unknownKind (kind : Value) (fullName : String)
  /-- An entity stands in a list that is not for its kind. -/
  | misplaced (expected : String) (kind : Kind) (fullName : String)
  /-- A file of the tree stands where a directory is needed. -/
  | blockedByFile (path file : List String)
  /-- A directory of the tree stands where a file is to go. -/
  | blockedByDirectory (path : List String)
  /-- A field that has to be given is not. -/
  | missingField (field : String) (owner : Value)
  /-- A full name or a path is given twice. -/
  | duplicate (fullName : String)
  /-- A link names an unknown entity. -/
  | unresolved (fullName : String) (reference : Value)
  /-- Parent links lead from `start` through `others` back to `start`. -/
  | parentCycle (start : String) (others : List String)
  /-- A setting has a value that it does not take. -/
  | invalidSetting (key : String) (value : Value) (reason : String)
  /-- A settings file that was asked for does not exist. -/
  | settingsFileMissing (path : String)
  /-- A settings file cannot be used. -/
  | settingsFileRefused (label path reason : String)
  /-- Settings have names that no setting has. -/
  | unknownSettings (keys : List String)
  /-- No file is the main page that the settings name. -/
  | mainPageMissing (mainPage : Value)
  /-- Writing at a path fails. -/
  | unwritable (path : Path) (reason : String)

namespace Fault

/-- The family of a cause. -/
def family : Fault → Family
  | stated family _ _ => family
  | invalidSetting .. | settingsFileMissing .. | settingsFileRefused .. | unknownSettings .. =>
    .configuration
  | mainPageMissing .. | unwritable .. => .generation
  | manifestNotRecord | manifestUnreadable .. | unknownKind .. | misplaced .. | blockedByFile ..
  | blockedByDirectory .. | missingField .. | duplicate .. | unresolved .. | parentCycle .. =>
    .entity

/-- What a cause says. -/
def message : Fault → String
  | stated _ message _ => message
  | manifestNotRecord => "Manifest must be a JSON object"
  | manifestUnreadable path _ => "Manifest is not valid JSON: " ++ path.text
  | unknownKind kind fullName => "Unknown kind " ++ kind.literal ++ " for " ++ fullName
  | misplaced expected kind fullName =>
    "Expected " ++ expected ++ ", got " ++ kind.word ++ ": " ++ fullName
  | blockedByFile path _ => "File path collides with another file: " ++ Text.joinSegments path
  | blockedByDirectory path => "File path collides with a directory: " ++ Text.joinSegments path
  | missingField field _ => "Entity is missing required field '" ++ field ++ "'"
  | duplicate fullName => "Duplicate entity full name: " ++ fullName
  | unresolved fullName reference =>
    "Cannot resolve '" ++ reference.display ++ "' referenced by " ++ fullName
  | parentCycle start _ => "Parent links of " ++ start ++ " form a cycle"
  | invalidSetting key value _ => "Invalid configuration for " ++ key ++ ": " ++ value.display
  | settingsFileMissing path => "Config file not found: " ++ path
  | settingsFileRefused label path reason =>
    "Invalid " ++ label ++ " '" ++ path ++ "': " ++ reason
  | unknownSettings keys => "Unknown configuration keys: " ++ Value.commaSeparated keys
  | mainPageMissing mainPage =>
    "Could not find main page " ++ mainPage.literal ++ " among rendered files"
  | unwritable path _ => "Cannot write artifact: " ++ path.text

/-- The named details of a cause, in the order they are shown. -/
def details : Fault → List (String × String)
  | stated _ _ details => details.map fun entry => (entry.1, entry.2.display)
  | manifestNotRecord => []
  | manifestUnreadable path reason => [("path", path.text), ("reason", reason)]
  | unknownKind kind fullName => [("full_name", fullName), ("kind", kind.display)]
  | misplaced _ kind fullName => [("full_name", fullName), ("kind", kind.word)]
  | blockedByFile _ file => [("file", Text.joinSegments file)]
  | blockedByDirectory path => [("file", Text.joinSegments path)]
  | missingField field owner =>
    ("field", field) :: if owner.isGiven then [("entity", owner.display)] else []
  | duplicate fullName => [("full_name", fullName)]
  | unresolved fullName reference => [("full_name", fullName), ("reference", reference.display)]
  | parentCycle start others => [("chain", String.intercalate " -> " (start :: others))]
  | invalidSetting key value reason =>
    [("key", key), ("value", value.display), ("reason", reason)]
  | settingsFileMissing _ => []
  | settingsFileRefused .. => []
  | unknownSettings keys => [("keys", Value.commaSeparated keys)]
  | mainPageMissing mainPage => [("main_page", mainPage.display)]
  | unwritable path reason => [("path", path.text), ("reason", reason)]

/-- The message, with the details in brackets behind it when there are any. -/
def text (fault : Fault) : String :=
  match fault.details with
  | [] => fault.message
  | details =>
    fault.message ++ " (" ++
      Value.commaSeparated (details.map fun entry => entry.1 ++ "=" ++ entry.2) ++ ")"

/-- The status that a command exits with: 2 for configuration, 1 for the rest. -/
def exitCode (fault : Fault) : Nat :=
  match fault.family with
  | .configuration => 2
  | _ => 1

end Fault

/-- A value or a place of the wrong shape, met where the input promised another. -/
inductive Misfit where
  /-- A value lacks a capability that its place needs. -/
  | lacks (shape : Shape) (capability : String)
  /-- A value that lists nothing stands where values are listed. -/
  | notListed (shape : Shape)
  /-- A list or a record stands where a name is looked up. -/
  | notKey (shape : Shape)
  /-- Two values that have no order are sorted. -/
  | notOrdered (left right : Shape)
  /-- A value that is no text stands where a text is matched. -/
  | notText (shape : Shape)
  /-- A value that is no text stands where a path is needed. -/
  | notPath (shape : Shape)
  /-- A value that is no text stands at a place of a list of texts that is joined. -/
  | notJoined (place : Nat) (shape : Shape)
  /-- A value that is no integer stands where a list is cut. -/
  | notIndex (shape : Shape)
  /-- A value of a shape that JSON does not have is written as JSON. -/
  | notJson (shape : Shape)
  /-- An integer has too many digits to be read or written; `count` is their number
  where they have been counted. -/
  | tooManyDigits (count : Option Nat)
  /-- A path holds a null character. -/
  | nullInPath
  /-- A setting is given by an unknown name. -/
  | unknownArgument (name : String)
  /-- A part that must be given is not. -/
  | missingArgument
  /-- A position lies outside a list. -/
  | outOfRange
  /-- A file does not exist. -/
  | noSuchFile (path : String)
  /-- A directory stands where a file is opened. -/
  | isDirectory (path : String)
  /-- A file stands where a directory is needed. -/
  | notDirectory (path : String)
  /-- A name on the way along a path, or the path itself, is too long. -/
  | nameTooLong (path : String)
  /-- Bytes are no UTF-8 text. -/
  | undecodable
deriving DecidableEq

/-- What a misfit says. -/
def Misfit.message : Misfit → String
  | lacks shape capability =>
    "'" ++ shape.fullWord ++ "' object has no attribute '" ++ capability ++ "'"
  | notListed shape => "'" ++ shape.fullWord ++ "' object is not iterable"
  | notKey shape => "unhashable type: '" ++ shape.fullWord ++ "'"
  | notOrdered left right =>
    "'<' not supported between instances of '" ++ left.fullWord ++ "' and '" ++
      right.fullWord ++ "'"
  | notText shape => "expected string or bytes-like object, got '" ++ shape.fullWord ++ "'"
  | notPath shape => "expected str, bytes or os.PathLike object, not " ++ shape.word
  | notJoined place shape =>
    "sequence item " ++ toString place ++ ": expected str instance, " ++ shape.fullWord ++ " found"
  | notIndex _ =>
    "slice indices must be integers or None or have an __index__ method"
  | notJson shape => "Object of type " ++ shape.word ++ " is not JSON serializable"
  | tooManyDigits count => Decimal.tooManyDigits count
  | nullInPath => "embedded null byte"
  | unknownArgument name => "got an unexpected keyword argument '" ++ name ++ "'"
  | missingArgument => "missing a required argument"
  | outOfRange => "list index out of range"
  | noSuchFile path => "[Errno 2] No such file or directory: " ++ Text.quoted path
  | isDirectory path => "[Errno 21] Is a directory: " ++ Text.quoted path
  | notDirectory path => "[Errno 20] Not a directory: " ++ Text.quoted path
  | nameTooLong path => "[Errno 36] File name too long: " ++ Text.quoted path
  | undecodable => "invalid utf-8"

/-- Why a computation has no result. -/
inductive Failure where
  | fault (cause : Fault)
  | misfit (cause : Misfit)

/-- What a failure says when a command reports it. -/
def Failure.text : Failure → String
  | fault cause => cause.text
  | misfit cause => cause.message

/-- The status that a command exits with. -/
def Failure.exitCode : Failure → Nat
  | fault cause => cause.exitCode
  | misfit _ => 1

/-- A computation that may fail. -/
abbrev Checked (α : Type) := Except Failure α

/-- Fails for a cause. -/
def refuse {α : Type} (cause : Fault) : Checked α :=
  .error (.fault cause)

/-- Fails for a misfit. -/
def reject {α : Type} (cause : Misfit) : Checked α :=
  .error (.misfit cause)

end DocAtlas
