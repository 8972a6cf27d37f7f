import ToolingHost.Environment
import ToolingHost.FileSystem.Operations
import ToolingHost.Log.Record
import ToolingHost.Subsystem

/-! # Finding executables

Each subsystem has an executable, which is given by the settings, installed below the storage
directory, or found on the search path. -/

/-! ## What is looked for

Each subsystem has an executable with a name, a display name, and a place below the storage
directory. -/

namespace ToolingHost

/-- The executable of a subsystem. -/
structure Executable where
  /-- The name in messages. -/
  displayName : String
  /-- The name of the file. -/
  binaryName : String
  /-- The directory below the storage directory in which it is installed. -/
  installDir : String
  deriving DecidableEq, Repr

namespace Executable

/-- The name of the file as a path. -/
def fileName (e : Executable) : FilePath := .ofString e.binaryName

/-- Where the executable is when it is installed. -/
def installedPath (e : Executable) (storage : FilePath) : FilePath :=
  ((storage.join (.ofString e.installDir)).join (.ofString "bin")).join e.fileName

/-- The executable of the language server. -/
def languageServer : Executable :=
  ⟨"Kotlin Language Server", "kotlin-language-server", "langServerInstall/server"⟩

/-- The executable of the debug adapter. -/
def debugAdapter : Executable :=
  ⟨"Kotlin Debug Adapter", "kotlin-debug-adapter", "debugAdapterInstall/adapter"⟩

/-- The executable of a subsystem. -/
def ofSubsystem : Subsystem → Executable
  | .languageServer => languageServer
  | .debugAdapter => debugAdapter

end Executable

end ToolingHost

/-! ## The search path

A plain name is looked for in the directories that the variable `PATH` lists, in their order. Empty
and relative directories are taken from the working directory, and `~` at the front of one stands
for the home directory. A name of several components is not searched for but taken from the working
directory. The first regular file that the process may execute is the match. -/

namespace ToolingHost.SearchPath

/-- The byte between the directories of a search path. -/
def separator : UInt8 := 58

/-- The component that stands for the home directory. -/
def homeName : Bytes := [126]

/-- A path seen from a directory: an absolute path stands as it is written, a relative one is
appended component by component. -/
def absolute (here path : FilePath) : FilePath :=
  if path.isAbsolute then path
  else path.components.foldl (fun path part => path.join ⟨part⟩) here

/-- A directory of the search path, seen from the working directory. One that starts with the
component for the home directory is seen from there instead, whatever the home directory is. -/
def directory (here : FilePath) (home? : Option FilePath) (dir : FilePath) : FilePath :=
  match home?, dir.lead, dir.components with
  | some home, [], name :: rest =>
    if name = homeName then rest.foldl (fun path part => path.join ⟨part⟩) home
    else absolute here dir
  | _, _, _ => absolute here dir

/-- Whether a name has more than one component, the root and a `.` at the front included. -/
def isPath (name : FilePath) : Bool :=
  1 < (if name.lead.isEmpty then 0 else 1) + name.components.length

/-- The directories of the search path; without the variable there are none. -/
def directories (env : Environment) : List FilePath :=
  match env.get? (Bytes.ofString "PATH") with
  | none => []
  | some value => (Bytes.cut separator value).map FilePath.mk

/-- The paths at which a name is looked for, in order. A separator at the end of a name stays, so
that no regular file is found there. -/
def candidates (fs : FileSystem) (env : Environment) (name : FilePath) : List FilePath :=
  let here := FileSystem.pathOf fs.workingDir
  if isPath name then [absolute here name]
  else (directories env).map fun dir => (directory here env.homeDir? dir).join name

/-- The first candidate that is a regular file and that the process may execute. -/
def find? (fs : FileSystem) (env : Environment) (name : FilePath) : Option FilePath :=
  (candidates fs env name).find? fs.isExecutable

/-- A match is a regular file that the process may execute. -/
theorem isExecutable_of_find?_eq_some {fs : FileSystem} {env : Environment} {name path : FilePath}
    (h : find? fs env name = some path) : fs.isExecutable path = true :=
  List.find?_some h

end ToolingHost.SearchPath

/-! ## Locating an executable

A path given by the settings is final: it is used, or the search fails. Without one the installed
executable is used, and without that the first match of the search path. A file that is used
although no one may execute it is announced in the log. -/

namespace ToolingHost.Executable

/-- Where an executable was found. -/
inductive Source where
  /-- At the path given by the settings. -/
  | custom
  /-- In the storage directory. -/
  | installed
  /-- On the search path. -/
  | systemPath
  deriving DecidableEq, Repr

/-- The name of a source in the log. -/
def Source.name : Source → String
  | .custom => "Custom"
  | .installed => "Installed"
  | .systemPath => "SystemPath"

/-- An executable that was found. -/
structure Located where
  /-- Its path. -/
  path : FilePath
  /-- Where it was found. -/
  source : Source
  deriving DecidableEq, Repr

/-- Why no executable was found. -/
inductive LocateError where
  /-- Nothing is at the path given by the settings. -/
  | customPathMissing (displayName : String) (path : FilePath)
  /-- The executable is neither installed nor on the search path. -/
  | notFound (displayName binaryName : String) (installed : FilePath)
  /-- It cannot be seen whether something is at a path. -/
  | io (path : FilePath) (cause : IoError)
  deriving DecidableEq, Repr

/-- The text of a failure. -/
def LocateError.message : LocateError → String
  | .customPathMissing displayName path =>
    "custom " ++ displayName ++ " path does not exist: " ++ path.display
  | .notFound displayName binaryName installed =>
    displayName ++ " not found: no install at " ++ installed.display ++ " and \x60" ++ binaryName ++
      "\x60 is not on PATH"
  | .io path _ => "checking " ++ path.display

/-- A failure with its causes, outermost first. -/
def LocateError.chain (e : LocateError) : List String :=
  match e with
  | .io _ cause => [e.message, cause.message]
  | _ => [e.message]

/-- Uses `path` if something is there, and otherwise whatever `next` gives. -/
def useIfThere (fs : FileSystem) (path : FilePath) (source : Source)
    (next : Except LocateError Located) : Except LocateError Located :=
  match fs.exists? path with
  | .error cause => .error (.io path cause)
  | .ok true => .ok ⟨path, source⟩
  | .ok false => next

/-- Finds the executable. -/
def locate (fs : FileSystem) (env : Environment) (e : Executable) (custom : Option FilePath)
    (storage : FilePath) : Except LocateError Located :=
  match custom with
  | some path =>
    useIfThere fs path .custom (.error (.customPathMissing e.displayName path))
  | none =>
    let installed := e.installedPath storage
    useIfThere fs installed .installed <|
      match SearchPath.find? fs env e.fileName with
      | some path => .ok ⟨path, .systemPath⟩
      | none => .error (.notFound e.displayName e.binaryName installed)

/-- The part of the program that log records of this module come from. -/
def locateTarget : String := "kide_utils::locate"

/-- The warning about a file that no one may execute. -/
def notExecutableRecord (path : FilePath) : Log.Record :=
  ⟨.warn, locateTarget, "Executable bit not set; spawning may fail",
    [("path", .shown path.display)]⟩

/-- The warnings about an executable that was found. A match of the search path is not looked at
again. -/
def Located.warnings (fs : FileSystem) (found : Located) : List Log.Record :=
  match found.source, fs.fileMode? found.path with
  | .systemPath, _ => []
  | _, some mode =>
    if FileSystem.isExecutableMode mode then [] else [notExecutableRecord found.path]
  | _, none => []

/-- The log records of a search with a given result. -/
def warnings (fs : FileSystem) : Except LocateError Located → List Log.Record
  | .ok found => found.warnings fs
  | .error _ => []

end ToolingHost.Executable
