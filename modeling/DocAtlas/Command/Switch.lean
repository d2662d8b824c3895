/-!
# Switches

This module reads the arguments of a command line that start with a dash. A
switch has a long spelling and may have a short one; short switches may be
written together, and a value may be attached to its switch. A lone double dash
ends the switches.
-/

namespace DocAtlas

/-- The switches of all commands. -/
inductive Switch where
  | help
  | version
  | output
  | dryRun
  | config
  | verbose
  | quiet
  | limit
deriving DecidableEq, Repr

namespace Switch

/-- The long spelling of a switch. -/
def long : Switch → String
  | help => "--help"
  | version => "--version"
  | output => "--output"
  | dryRun => "--dry-run"
  | config => "--config"
  | verbose => "--verbose"
  | quiet => "--quiet"
  | limit => "--limit"

/-- The letter of the short spelling of a switch. -/
def letter? : Switch → Option Char
  | output => some 'o'
  | config => some 'c'
  | verbose => some 'v'
  | quiet => some 'q'
  | limit => some 'n'
  | help | version | dryRun => none

/-- Whether a switch takes a value. -/
def takesValue : Switch → Bool
  | output | config | limit => true
  | help | version | dryRun | verbose | quiet => false

end Switch

/-- Why a command line is refused. -/
inductive Misuse where
  | unknownCommand (word : String)
  | unknownSwitch (spelling : String)
  | valueMissing (switch : Switch)
  | valueUnwanted (switch : Switch)
  | operandMissing (name : String)
  | operandUnwanted (operand : String)
  | limitRefused (written : String)
  | noSuchFile (path : String)
  | notDirectory (path : String)
deriving DecidableEq, Repr

/-- What a misuse says. -/
def Misuse.message : Misuse → String
  | unknownCommand word => "No such command: " ++ word
  | unknownSwitch spelling => "No such option: " ++ spelling
  | valueMissing switch => "Option needs a value: " ++ switch.long
  | valueUnwanted switch => "Option takes no value: " ++ switch.long
  | operandMissing name => "Missing argument: " ++ name
  | operandUnwanted operand => "Unexpected argument: " ++ operand
  | limitRefused written => "Not a limit: " ++ written
  | noSuchFile path => "Not a file: " ++ path
  | notDirectory path => "Not a directory: " ++ path

/-- What the switches in one argument say: those without a value, and at most one
that takes a value, with the value if it is attached. -/
structure Switches where
  plain : List Switch
  open? : Option (Switch × Option String)

namespace Switches

/-- Reads short switches that are written together. What stands behind one that
takes a value is its value. -/
def readLetters (known : List Switch) : List Char → Except Misuse Switches
  | [] => .ok ⟨[], none⟩
  | letter :: rest =>
    match known.find? fun switch => switch.letter? == some letter with
    | none => .error (.unknownSwitch (String.ofList ['-', letter]))
    | some switch =>
      if switch.takesValue then
        .ok ⟨[], some (switch, if rest.isEmpty then none else some (String.ofList rest))⟩
      else
        match readLetters known rest with
        | .ok others => .ok { others with plain := switch :: others.plain }
        | .error misuse => .error misuse

/-- Reads an argument that starts with a dash. A long spelling may be followed by
an equals sign and a value. -/
def read (known : List Switch) (argument : String) : Except Misuse Switches :=
  let chars := argument.toList
  let spelling := String.ofList (chars.takeWhile (· != '='))
  let attached :=
    match chars.dropWhile (· != '=') with
    | _ :: value => some (String.ofList value)
    | [] => none
  match known.find? fun switch => switch.long == spelling with
  | some switch =>
    if switch.takesValue then .ok ⟨[], some (switch, attached)⟩
    else if attached.isSome then .error (.valueUnwanted switch)
    else .ok ⟨[switch], none⟩
  | none =>
    match chars with
    | '-' :: '-' :: _ => .error (.unknownSwitch spelling)
    | _ => readLetters known (chars.drop 1)

end Switches

/-- What a list of arguments says: switches with their values, and operands. -/
structure Reading where
  switches : List (Switch × String)
  operands : List String

namespace Reading

/-- Whether an argument is read as a switch: it starts with a dash and goes on. -/
def isSwitch (argument : String) : Bool :=
  match argument.toList with
  | '-' :: _ :: _ => true
  | _ => false

/-- A reading behind further switches. -/
def behind (given : List (Switch × String)) (reading : Reading) : Reading :=
  { reading with switches := given ++ reading.switches }

/-- Reads arguments. Unless operands and switches may be mixed, the first operand
ends the switches. -/
def scan (isMixed : Bool) (known : List Switch) : List String → Except Misuse Reading
  | [] => .ok ⟨[], []⟩
  | argument :: rest =>
    if argument = "--" then .ok ⟨[], rest⟩
    else if isSwitch argument then
      match Switches.read known argument with
      | .error misuse => .error misuse
      | .ok switches =>
        let plain := switches.plain.map fun switch => (switch, "")
        match switches.open? with
        | none => (scan isMixed known rest).map (behind plain)
        | some (switch, some value) =>
          (scan isMixed known rest).map (behind (plain ++ [(switch, value)]))
        | some (switch, none) =>
          match rest with
          | [] => .error (.valueMissing switch)
          | value :: rest =>
            (scan isMixed known rest).map (behind (plain ++ [(switch, value)]))
    else if isMixed then
      (scan isMixed known rest).map fun reading =>
        { reading with operands := argument :: reading.operands }
    else .ok ⟨[], argument :: rest⟩

/-- Whether a switch is given. -/
def has (reading : Reading) (switch : Switch) : Bool :=
  reading.switches.any fun given => given.1 == switch

/-- The value that is given to a switch last. -/
def value? (reading : Reading) (switch : Switch) : Option String :=
  (reading.switches.reverse.find? fun given => given.1 == switch).map (·.2)

end Reading

end DocAtlas
