import ToolingHost.FilePath
import ToolingHost.Text.Shown

/-! # Arguments and help

What the arguments of the program may be, how they are read, and what the program prints about
them. -/

/-! ## Command-line arguments

The program takes three options, each with a value, and the flags for help and for the version;
there are no arguments besides. A value follows its option as the next argument or after `=`.
Arguments are read one by one. An option with its value after `=` is settled at once, one whose
value is an argument of its own only when the next option or flag comes, or at the end. So of two
mistakes the one that is noticed first is reported, and a flag hides every mistake after it. -/

namespace ToolingHost.CommandLine

/-- An option with a value. -/
inductive Setting where
  /-- The workspace. -/
  | workspace
  /-- The configuration file. -/
  | config
  /-- The storage directory. -/
  | storage
  deriving DecidableEq, Repr

/-- All options, in the order of the help. -/
def Setting.all : List Setting := [.workspace, .config, .storage]

/-- The name of an option. -/
def Setting.name : Setting → String
  | .workspace => "workspace"
  | .config => "config"
  | .storage => "storage"

/-- What the value of an option is called. -/
def Setting.valueName : Setting → String
  | .workspace => "DIR"
  | .config => "FILE"
  | .storage => "DIR"

/-- An option as it is written. -/
def Setting.usage (o : Setting) : String := "--" ++ o.name ++ " <" ++ o.valueName ++ ">"

/-- A flag. -/
inductive Flag where
  /-- Print the help. -/
  | help
  /-- Print the version. -/
  | version
  deriving DecidableEq, Repr

/-- All flags. -/
def Flag.all : List Flag := [.help, .version]

/-- The long name of a flag. -/
def Flag.name : Flag → String
  | .help => "help"
  | .version => "version"

/-- The short name of a flag. -/
def Flag.letter : Flag → Char
  | .help => 'h'
  | .version => 'V'

/-- The values of the options. -/
structure Arguments where
  /-- The workspace. -/
  workspace : Option FilePath
  /-- The configuration file. -/
  config : Option FilePath
  /-- The storage directory. -/
  storage : Option FilePath
  deriving DecidableEq, Repr

namespace Arguments

/-- No option is given. -/
def empty : Arguments := ⟨none, none, none⟩

/-- The value of an option. -/
def get (a : Arguments) : Setting → Option FilePath
  | .workspace => a.workspace
  | .config => a.config
  | .storage => a.storage

/-- The values with that of one option set. -/
def set (a : Arguments) (o : Setting) (value : FilePath) : Arguments :=
  match o with
  | .workspace => { a with workspace := some value }
  | .config => { a with config := some value }
  | .storage => { a with storage := some value }

/-- An option has the value that was set last. -/
@[simp] theorem get_set_self (a : Arguments) (o : Setting) (value : FilePath) :
    (a.set o value).get o = some value := by
  cases o <;> rfl

/-- Setting an option leaves the others alone. -/
theorem get_set_of_ne (a : Arguments) {o other : Setting} (value : FilePath) (h : other ≠ o) :
    (a.set o value).get other = a.get other := by
  cases o <;> cases other <;> first | rfl | exact absurd rfl h

end Arguments

/-- A mistake in the arguments. -/
inductive UsageError where
  /-- An option has no value. -/
  | valueMissing (option : Setting)
  /-- An option is given more than once. -/
  | repeated (option : Setting)
  /-- A flag has a value. -/
  | flagWithValue (flag : Flag) (value : Bytes)
  /-- An argument that the program does not take; as it is shown. -/
  | unexpected (argument : String)
  deriving DecidableEq, Repr

/-- The text of a mistake. Control sequences in what was written are left out. -/
def UsageError.message : UsageError → String
  | .valueMissing o => "a value is required for '" ++ o.usage ++ "' but none was supplied"
  | .repeated o => "the argument '" ++ o.usage ++ "' cannot be used multiple times"
  | .flagWithValue flag value =>
    "unexpected value '" ++ Text.ControlSequence.strip (Utf8.lossy value) ++ "' for '--" ++
      flag.name ++ "' found; no more were expected"
  | .unexpected argument =>
    "unexpected argument '" ++ Text.ControlSequence.strip argument ++ "' found"

/-- What the arguments ask for. -/
inductive Request where
  /-- To run with the given values. -/
  | run (arguments : Arguments)
  /-- What a flag stands for. -/
  | flag (flag : Flag)
  /-- Nothing that the program understands. -/
  | refuse (mistake : UsageError)
  deriving DecidableEq, Repr

/-- What is known after some arguments. -/
structure Reading where
  /-- The options that are settled. -/
  given : Arguments
  /-- The option that was read last, with its value if that was read too. -/
  pending : Option (Setting × Option Bytes)
  /-- Whether `--` was read; what follows is no option. -/
  trailing : Bool
  deriving DecidableEq, Repr

namespace Reading

/-- Before the first argument. -/
def start : Reading := ⟨.empty, none, false⟩

/-- Gives an option its value. -/
def assign (r : Reading) (o : Setting) (value : Bytes) : Except UsageError Reading :=
  if (r.given.get o).isSome then .error (.repeated o)
  else if value.isEmpty then .error (.valueMissing o)
  else .ok { r with given := r.given.set o ⟨value⟩, pending := none }

/-- Settles the option that was read last. -/
def settle (r : Reading) : Except UsageError Reading :=
  match r.pending with
  | none => .ok r
  | some (o, none) => .error (.valueMissing o)
  | some (o, some value) => r.assign o value

/-- What comes of a step: either the request is settled, or reading goes on. -/
abbrev Step := Except Request Reading

/-- Refuses an argument. -/
def refuse (argument : String) : Step := .error (.refuse (.unexpected argument))

/-- Settles the option that was read last, and goes on. -/
def settling (r : Reading) (next : Reading → Step) : Step :=
  match r.settle with
  | .error mistake => .error (.refuse mistake)
  | .ok r => next r

/-- Obeys a flag. -/
def obey (r : Reading) (flag : Flag) : Step := r.settling fun _ => .error (.flag flag)

/-- Whether a byte string is the long name of something. -/
def isNamed (name : Bytes) (text : String) : Bool := name == Bytes.ofString text

/-- An option, with its value if that is part of the same argument. -/
def stepOption (r : Reading) (o : Setting) (value : Option Bytes) : Step :=
  r.settling fun r =>
    match value with
    | none => .ok { r with pending := some (o, none) }
    | some value =>
      match r.assign o value with
      | .error mistake => .error (.refuse mistake)
      | .ok r => .ok r

/-- An argument that starts with `--`, cut at its first `=`. -/
def stepLong (r : Reading) (name : Bytes) (value : Option Bytes) : Step :=
  match Setting.all.find? fun o => isNamed name o.name with
  | some o => r.stepOption o value
  | none =>
    match Flag.all.find? fun flag => isNamed name flag.name with
    | none => refuse ("--" ++ Utf8.lossy name)
    | some flag =>
      match value with
      | some value => .error (.refuse (.flagWithValue flag value))
      | none => r.obey flag

/-- An argument that starts with one `-`: its first letter decides. -/
def stepShort (r : Reading) (letters : Bytes) : Step :=
  match Utf8.pieces letters with
  | .char c :: _ =>
    match Flag.all.find? fun flag => flag.letter == c with
    | some flag => r.obey flag
    | none => refuse (String.ofList ['-', c])
  | _ => refuse ("-" ++ Utf8.lossy letters)

/-- An argument that is no option: the value of the option before it, if that has none yet. -/
def stepValue (r : Reading) (argument : Bytes) : Step :=
  match r.pending with
  | some (o, none) => .ok { r with pending := some (o, some argument) }
  | _ => refuse (Utf8.lossy argument)

/-- The byte before the name of an option. -/
def dash : UInt8 := 45

/-- The byte between an option and its value. -/
def equals : UInt8 := 61

/-- The name and the value of a long option. -/
def cutValue (body : Bytes) : Bytes × Option Bytes :=
  match body.dropWhile (· != equals) with
  | [] => (body, none)
  | _ :: value => (body.takeWhile (· != equals), some value)

/-- Reads one argument. -/
def step (r : Reading) (argument : Bytes) : Step :=
  if r.trailing then refuse (Utf8.lossy argument)
  else
    match argument with
    | first :: second :: rest =>
      if first ≠ dash then r.stepValue argument
      else if second ≠ dash then r.stepShort (second :: rest)
      else if rest.isEmpty then .ok { r with trailing := true }
      else
        let (name, value) := cutValue rest
        r.stepLong name value
    | _ => r.stepValue argument

/-- Reads arguments to the end. -/
def readAll : Reading → List Bytes → Request
  | r, [] =>
    match r.settle with
    | .error mistake => .refuse mistake
    | .ok r => .run r.given
  | r, argument :: rest =>
    match r.step argument with
    | .error request => request
    | .ok r => readAll r rest

end Reading

/-- What arguments ask for. -/
def Request.ofArguments (arguments : List Bytes) : Request := Reading.start.readAll arguments

/-- Without arguments the program runs with nothing set. -/
@[simp] theorem Request.ofArguments_nil : Request.ofArguments [] = .run .empty := rfl

/-! ## Help

What the program prints about itself. -/

/-- The name of the program. -/
def programName : String := "kide"

/-- The version of the program. -/
def programVersion : String := "0.0.0"

/-- What the program does. -/
def about : String := "Start Kotlin language tooling for a workspace"

/-- How the program is called. -/
def usageLine : String := "Usage: " ++ programName ++ " [OPTIONS]"

/-- What an option is for. -/
def Setting.about : Setting → String
  | .workspace =>
    "Workspace root handed to the language server (default: current directory) [default: .]"
  | .config => "Config file (default: ~/.kide/config.toml)"
  | .storage => "Global storage directory holding installed servers"

/-- What a flag is for. -/
def Flag.about : Flag → String
  | .help => "Print help"
  | .version => "Print version"

/-- A flag as it is written in the help. -/
def Flag.usage (flag : Flag) : String := String.ofList ['-', flag.letter] ++ ", --" ++ flag.name

/-- The rows of the help: each option and flag with what it is for. -/
def helpRows : List (String × String) :=
  (Setting.all.map fun o => ("    " ++ o.usage, o.about)) ++
    Flag.all.map fun flag => (flag.usage, flag.about)

/-- A row with its second part in a column of its own. -/
def helpRow (width : Nat) (row : String × String) : String :=
  "  " ++ row.1 ++ String.ofList (List.replicate (width - row.1.length + 2) ' ') ++ row.2

/-- The lines of the help. -/
def helpLines : List String :=
  let width := (helpRows.map fun row => row.1.length).foldl max 0
  [about, "", usageLine, "", "Options:"] ++ helpRows.map (helpRow width)

/-- The line of the version. -/
def versionLine : String := programName ++ " " ++ programVersion

/-- What is printed for a flag. -/
def Flag.lines : Flag → List String
  | .help => helpLines
  | .version => [versionLine]

/-- What is printed about a mistake in the arguments. -/
def UsageError.lines (e : UsageError) : List String :=
  ["error: " ++ e.message, "", usageLine, "", "For more information, try '--help'."]

end ToolingHost.CommandLine
