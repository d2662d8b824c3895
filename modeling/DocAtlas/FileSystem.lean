import DocAtlas.Fault

/-!
# File system

This module holds the directories and files that a run can reach, and the few
operations that writing an artifact needs, each with the troubles that a POSIX
system reports for it. A double point leads to the directory above. The working
directory, the directories above it and the root are always there.
-/

namespace DocAtlas

/-- What stands at a place: a directory, or a file with its mode and its text. -/
inductive FileSystem.Entry where
  | directory
  | file (mode : Nat) (text : String)
deriving DecidableEq, Repr

/-- A place: the names that lead to it from the working directory. A place that
does not lie below the working directory starts with double points, or with a
slash for the root. -/
abbrev FileSystem.Location := List String

/-- The places that hold something, apart from those that always do. -/
structure FileSystem where
  entries : List (FileSystem.Location × FileSystem.Entry)
deriving Inhabited

/-- Why an operation on the file system fails. -/
inductive Trouble where
  | missing
  | alreadyExists
  | notDirectory
  | isDirectory
  | nameTooLong
  | busy
  /-- A path holds a null character, so it is not even looked for. -/
  | nullInPath
deriving DecidableEq, Repr

/-- The wording of a trouble. -/
def Trouble.message : Trouble → String
  | missing => "No such file or directory"
  | alreadyExists => "File exists"
  | notDirectory => "Not a directory"
  | isDirectory => "Is a directory"
  | nameTooLong => "File name too long"
  | busy => "Device or resource busy"
  | nullInPath => Misfit.nullInPath.message

namespace FileSystem

/-- The file system without entries. -/
def empty : FileSystem := ⟨[]⟩

/-- The place of the root. -/
def root : Location := ["/"]

/-- Whether a place is a directory that is always there. -/
def isAnchor (location : Location) : Bool :=
  location == root || location.all (· == "..")

/-- Whether a place lies below the working directory. -/
def isWithin (location : Location) : Bool :=
  location.head? != some "/" && location.head? != some ".."

/-- The directory above a place; nothing is above the root. -/
def above (location : Location) : Location :=
  if location == root then root
  else if isAnchor location then location ++ [".."]
  else location.dropLast

/-- Where the way along a path starts. -/
def startOf (path : Path) : Location :=
  if path.isAbsolute then root else []

/-- What stands at a place. -/
def at? (system : FileSystem) (location : Location) : Option Entry :=
  if isAnchor location then some .directory
  else (system.entries.find? fun entry => entry.1 == location).map (·.2)

/-- Sets what stands at a place. -/
def set (system : FileSystem) (location : Location) (entry : Entry) : FileSystem :=
  ⟨(location, entry) :: system.entries.filter fun other => other.1 != location⟩

/-- After an entry is set, its place holds it and every other place is as it was. -/
theorem at?_set (system : FileSystem) (location other : Location)
    (entry : Entry) (isPlace : isAnchor other = false) :
    (system.set location entry).at? other =
      if other = location then some entry else system.at? other := by
  unfold at? set
  simp only [isPlace, Bool.false_eq_true, if_false, List.find?_cons]
  by_cases same : location = other
  · subst same; simp
  · have differs : ¬ other = location := fun equal => same equal.symm
    have test : (location == other) = false := by simpa using same
    simp only [test, differs, if_false, List.find?_filter]
    congr 2
    funext candidate
    by_cases atOther : candidate.1 = other
    · simp [atOther, differs]
    · simp [atOther]

/-- The most bytes that a name may have. -/
def nameLimit : Nat := 255

/-- The most bytes that the text of a path may have. -/
def pathLimit : Nat := 4095

/-- The place that one component leads to from a directory. -/
def step (system : FileSystem) (location : Location) (component : String) :
    Except Trouble Location :=
  match system.at? location with
  | none => .error .missing
  | some (.file ..) => .error .notDirectory
  | some .directory =>
    if nameLimit < component.utf8ByteSize then .error .nameTooLong
    else if component = ".." then .ok (above location)
    else .ok (location ++ [component])

/-- The place that components lead to, step by step. Nothing need stand there. -/
def locate (system : FileSystem) : Location → List String → Except Trouble Location
  | location, [] => .ok location
  | location, component :: rest =>
    match system.step location component with
    | .ok next => locate system next rest
    | .error trouble => .error trouble

/-- The place that a path leads to. Nothing need stand there. -/
def place (system : FileSystem) (path : Path) : Except Trouble Location :=
  if path.hasNull then .error .nullInPath
  else if pathLimit < path.text.utf8ByteSize then .error .nameTooLong
  else system.locate (startOf path) path.components

/-- What stands where a path leads to. -/
def entry? (system : FileSystem) (path : Path) : Option Entry :=
  match system.place path with
  | .ok location => system.at? location
  | .error _ => none

/-- Makes one directory where nothing stands. -/
def makeDirectory (system : FileSystem) (path : Path) : Except Trouble FileSystem :=
  match system.place path with
  | .error trouble => .error trouble
  | .ok location =>
    match system.at? location with
    | some _ => .error .alreadyExists
    | none => .ok (system.set location .directory)

/-- Makes a directory and those above it, as far as they are missing; `reversed`
are its components, the last first. What was made before a trouble stays. -/
def makeDirectories (root : Path.Root) :
    (reversed : List String) → FileSystem → FileSystem × Except Trouble Unit
  | [], system => (system, .ok ())
  | last :: rest, system =>
    let path : Path := ⟨root, (last :: rest).reverse⟩
    let settle (system : FileSystem) (trouble : Trouble) : FileSystem × Except Trouble Unit :=
      (system, if system.entry? path = some .directory then .ok () else .error trouble)
    match system.makeDirectory path with
    | .ok made => (made, .ok ())
    | .error .missing =>
      match makeDirectories root rest system with
      | (system, .error trouble) => (system, .error trouble)
      | (system, .ok ()) =>
        match system.makeDirectory path with
        | .ok made => (made, .ok ())
        | .error trouble => settle system trouble
    | .error trouble => settle system trouble

/-! ### Replacing a file -/

/-- The mode of an artifact: all may read it and its owner may write it. -/
def artifactMode : Nat := 0o644

/-- The mode of a temporary file: only its owner may read and write it. -/
def temporaryMode : Nat := 0o600

/-- How many bytes the name of a temporary file has more than that of its target. -/
def temporaryExtra : Nat := 14

/-- Whether the name or the text of a path leaves no room for those of a temporary
file beside it. -/
def leavesNoRoom (path : Path) : Bool :=
  nameLimit < path.name.utf8ByteSize + temporaryExtra ||
    pathLimit < path.text.utf8ByteSize + temporaryExtra

/-- The place of a temporary file for a path, in the directory of the path. A mark tells
it from others. -/
def temporaryPlace (directory : Location) (path : Path) (mark : String) : Location :=
  directory ++ ["." ++ path.name ++ "." ++ mark ++ ".tmp"]

/-- Makes an empty temporary file beside a path, where nothing stands. -/
def makeTemporary (system : FileSystem) (path : Path) (mark : String) :
    Except Trouble (FileSystem × Location) :=
  if path.hasNull then .error .nullInPath
  else if leavesNoRoom path then .error .nameTooLong
  else
    match system.place path.parent with
    | .error trouble => .error trouble
    | .ok directory =>
      let temporary := temporaryPlace directory path mark
      match system.at? temporary with
      | some _ => .error .alreadyExists
      | none => .ok (system.set temporary (.file temporaryMode ""), temporary)

/-- Writes the text of a file, whose mode stays. -/
def fill (system : FileSystem) (location : Location) (text : String) : FileSystem :=
  match system.at? location with
  | some (.file mode _) => system.set location (.file mode text)
  | _ => system

/-- Changes the mode of a file, whose text stays. -/
def changeMode (system : FileSystem) (location : Location) (mode : Nat) : FileSystem :=
  match system.at? location with
  | some (.file _ text) => system.set location (.file mode text)
  | _ => system

/-- Takes away what stands at a place. -/
def remove (system : FileSystem) (location : Location) : FileSystem :=
  ⟨system.entries.filter fun other => other.1 != location⟩

/-- Moves a file to a path in one step, over a file that may stand there. -/
def moveFile (system : FileSystem) (source : Location) (path : Path) :
    Except Trouble FileSystem :=
  if path.components.isEmpty || path.name == ".." then .error .busy
  else
    match system.place path with
    | .error trouble => .error trouble
    | .ok target =>
      if system.at? target = some .directory then .error .isDirectory
      else
        match system.at? source with
        | none => .error .missing
        | some entry => .ok ((system.remove source).set target entry)

/-- Replaces the file at a path whose directory is there. The text goes to a temporary
file, which is moved to the path, or is taken away again when it cannot be moved. -/
def replaceBeside (system : FileSystem) (path : Path) (text mark : String) :
    FileSystem × Except Trouble Unit :=
  match system.makeTemporary path mark with
  | .error trouble => (system, .error trouble)
  | .ok (system, temporary) =>
    let filled := (system.fill temporary text).changeMode temporary artifactMode
    match filled.moveFile temporary path with
    | .ok moved => (moved, .ok ())
    | .error trouble => (filled.remove temporary, .error trouble)

/-- Replaces the file at a path by a new one in one step, and makes the directories above
it. The mark of the temporary file is any that `choose` comes upon. A trouble leaves
every file as it was. -/
def replaceFileWith (choose : FileSystem → Path → String) (system : FileSystem) (path : Path)
    (text : String) : FileSystem × Except Trouble Unit :=
  match makeDirectories path.root path.parent.components.reverse system with
  | (system, .error trouble) => (system, .error trouble)
  | (system, .ok ()) => system.replaceBeside path text (choose system path)

/-- The mark of a number: eight digits, as long as eight suffice. -/
def markOf (number : Nat) : String :=
  let digits := Nat.toDigits 10 number
  String.ofList (List.replicate (8 - digits.length) '0' ++ digits)

/-- Whether the mark of a number makes a temporary file whose place is free. -/
def isFreeMark (system : FileSystem) (path : Path) (number : Nat) : Bool :=
  match system.place path.parent with
  | .ok directory => (system.at? (temporaryPlace directory path (markOf number))).isNone
  | .error _ => true

/-- The first mark whose place is free. Some mark is among those of one number more than
there are entries. -/
def freeMark (system : FileSystem) (path : Path) : String :=
  markOf (((List.range (system.entries.length + 1)).find? (system.isFreeMark path)).getD 0)

/-- Replaces the file at a path by a new one in one step, through a temporary file with a
free mark. -/
def replaceFile (system : FileSystem) (path : Path) (text : String) :
    FileSystem × Except Trouble Unit :=
  system.replaceFileWith freeMark path text

/-! ### Listing -/

/-- The text of a place. -/
def Location.text (location : Location) : String :=
  Text.joinSegments location

/-- What lies below the working directory, sorted by the texts of the places. -/
def listing (system : FileSystem) : List (String × Entry) :=
  ((system.entries.filter fun entry => isWithin entry.1).map
    fun entry => (Location.text entry.1, entry.2)).mergeSort fun left right => left.1 ≤ right.1

end FileSystem

end DocAtlas
