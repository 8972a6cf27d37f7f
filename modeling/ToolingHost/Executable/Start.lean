import ToolingHost.Bytes
import ToolingHost.Environment
import ToolingHost.FileSystem.Operations

/-! # Programs and scripts

How the system starts a program: it looks for the file, opens it for execution, makes sure that the
arguments fit, and follows the first line of a script to its interpreter. -/

/-! ## Scripts

A file that starts with `#!` is a script: the rest of its first line names the program that
interprets it, with an argument that does not matter here. The system looks only at the first
`headSize` bytes, and takes a file for no script if the name could go on beyond them. -/

namespace ToolingHost.Script

/-- How many bytes of a file are looked at; a shorter file counts as filled up with NUL bytes. -/
def headSize : Nat := 256

/-- What a script starts with. -/
def mark : Bytes := Bytes.ofString "#!"

/-- Whether a byte separates the name of the interpreter from what is around it. -/
def isGap (b : UInt8) : Bool := b == 32 || b == 9

/-- The byte at the end of a line. -/
def newline : UInt8 := 10

/-- The name of an interpreter on a line that is complete. -/
def nameOnLine? (line : Bytes) : Option Bytes :=
  let name := (line.dropWhile isGap).takeWhile fun b => !isGap b
  if name.isEmpty then none else some name

/-- The name of an interpreter in a head without a line end. It ends at a blank or a NUL byte, which
must lie within the head, and may be empty. -/
def nameInHead? (head : Bytes) : Option Bytes :=
  let room := headSize - mark.length
  let filled := (head ++ List.replicate (room - head.length) 0).dropWhile isGap
  let name := filled.takeWhile fun b => !isGap b && b != 0
  if filled.length ≤ max name.length 1 then none else some name

/-- The path of the interpreter of a file, if the file is a script. -/
def interpreter? (content : Bytes) : Option Bytes :=
  if !mark.isPrefixOf content then none
  else
    let head := (content.take headSize).drop mark.length
    let text := head.takeWhile (· != 0)
    if text.contains newline then nameOnLine? (text.takeWhile (· != newline)) else nameInHead? head

/-- A first line with nothing on it names no interpreter. -/
theorem nameOnLine?_nil : nameOnLine? [] = none := rfl

end ToolingHost.Script

/-! ## Starting a program

A program is started by its path, with arguments and an environment, which must fit the space that
the system has for them. A name without a slash is looked for in the directories of the search path,
by rules of the system that differ from those of `SearchPath`: a directory in which the file is
missing is passed over, one in which it may not be executed is passed over and remembered. A script
is executed by its interpreter, which may be a script too. -/

namespace ToolingHost.Program

/-- Why a program cannot be started. -/
inductive StartError where
  /-- The path or an argument holds a NUL byte. -/
  | nul
  /-- The system refuses. -/
  | refused (cause : IoError)
  deriving DecidableEq, Repr

/-- The text of a failure. -/
def StartError.message : StartError → String
  | .nul => "nul byte found in provided data"
  | .refused cause => cause.message

/-- A failure with its causes, outermost first. -/
def StartError.chain (path : FilePath) (e : StartError) : List String :=
  ["spawning " ++ path.display, e.message]

/-- How a program is to be started. -/
structure Command where
  /-- Its path, or its name on the search path. -/
  path : FilePath
  /-- Its arguments. -/
  args : List Bytes
  /-- The environment in which it is looked for. -/
  env : Environment
  /-- The environment that it is given. -/
  given : Environment
  deriving DecidableEq, Repr

namespace Command

/-- What the program is handed: its name, its arguments, and the entries of its environment. -/
def texts (c : Command) : List Bytes :=
  c.path.bytes :: c.args ++ c.given.entries.map Environment.entry

/-- The greatest size of one text, with the NUL byte at its end. -/
def maxText : Nat := 131072

/-- The space for all texts, for the path of the file, and for a pointer to each text. -/
def maxSpace : Nat := 2097152

/-- The size of a pointer. -/
def pointerSize : Nat := 8

/-- The space that a text takes, with the NUL byte at its end. -/
def space (text : Bytes) : Nat := text.length + 1

/-- Whether what the program is handed does not fit when it is the file at `file`. -/
def isTooLong (c : Command) (file : FilePath) : Bool :=
  c.texts.any (maxText < space ·) ||
    maxSpace < c.texts.foldl (fun n text => n + (space text + pointerSize)) 0 + space file.bytes

end Command

/-- The byte between the directories of a search path. -/
def separator : UInt8 := 58

/-- The search path of a system on which the variable is not set. -/
def usualDirectories : Bytes := Bytes.ofString "/bin:/usr/bin"

/-- Opens the file at a path for execution; gives its location and its content. -/
def openFile? (fs : FileSystem) (path : FilePath) : Except IoError (Location × Bytes) :=
  match fs.stat? path with
  | .error cause => .error cause
  | .ok (location, .file content mode) =>
    if fs.mayExecute location mode then .ok (location, content) else .error .permissionDenied
  | .ok _ => .error .permissionDenied

/-- Opens the interpreter of a script. An empty path means the working directory, which is no
program. -/
def openInterpreter? (fs : FileSystem) (name : Bytes) : Except IoError (Location × Bytes) :=
  if name.isEmpty then .error .permissionDenied else openFile? fs ⟨name⟩

/-- How many files are opened for one program: scripts, and the program that interprets them. -/
def maxFiles : Nat := 6

/-- Runs a file, or its interpreter. `isProgram` says which contents are programs. -/
def runFile? (isProgram : Bytes → Bool) (fs : FileSystem) :
    (files : Nat) → Location × Bytes → Except IoError Location
  | 0, _ => .error .linkLoop
  | files + 1, (location, content) =>
    if isProgram content then .ok location
    else
      match Script.interpreter? content with
      | none => .error .badExecutable
      | some name =>
        match openInterpreter? fs name with
        | .error cause => .error cause
        | .ok next => runFile? isProgram fs files next

/-- Executes the file at a path; gives the location of the program that runs. -/
def execute? (isProgram : Bytes → Bool) (fs : FileSystem) (c : Command) (file : FilePath) :
    Except IoError Location :=
  match openFile? fs file with
  | .error cause => .error cause
  | .ok opened =>
    if c.isTooLong file then .error .argumentsTooLong else runFile? isProgram fs maxFiles opened

/-- Tries directories in order, with the failure to report if there are no more. The empty directory
is the working directory. One whose name is too long for a path counts as empty, and as nothing if
it is the last. -/
def tryDirectories (isProgram : Bytes → Bool) (fs : FileSystem) (c : Command) :
    IoError → List Bytes → Except IoError Location
  | failure, [] => .error failure
  | failure, dir :: rest =>
    let tooLong := FileSystem.maxPath ≤ dir.length
    if tooLong && rest.isEmpty then .error failure
    else
      let file : FilePath :=
        if dir.isEmpty || tooLong then c.path else ⟨dir ++ FilePath.separator :: c.path.bytes⟩
      match execute? isProgram fs c file with
      | .ok location => .ok location
      | .error cause =>
        match cause with
        | .permissionDenied => tryDirectories isProgram fs c .permissionDenied rest
        | .notFound | .notADirectory =>
          let kept := if failure = .permissionDenied then failure else cause
          tryDirectories isProgram fs c kept rest
        | _ => .error cause

/-- Starts a program; gives the location of the program that runs. -/
def start? (isProgram : Bytes → Bool) (fs : FileSystem) (c : Command) :
    Except StartError Location :=
  if (c.path.bytes :: c.args).any (·.contains 0) then .error .nul
  else
    let result :=
      if c.path.isEmpty then .error .notFound
      else if c.path.bytes.contains FilePath.separator then execute? isProgram fs c c.path
      else if FileSystem.maxName < c.path.bytes.length then .error .nameTooLong
      else
        let dirs := (c.env.get? (Bytes.ofString "PATH")).getD usualDirectories
        tryDirectories isProgram fs c .notFound (Bytes.cut separator dirs)
    match result with
    | .ok location => .ok location
    | .error cause => .error (.refused cause)

end ToolingHost.Program
