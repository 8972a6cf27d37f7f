import ToolingHost.CommandLine.Run
import ToolingHost.Executable.Locate

/-! # The program

The program takes a picture of its surroundings, works out its run from that, and puts what has
changed in place. -/

/-! ## The surroundings of a run

A run is worked out from a picture of the files around it. The picture needs only what a run may
look at: the configuration, the log files, the workspace, and the places of the executables, each
with the directories above it. Afterwards the entries that are new or have changed are put in place.
-/

namespace ToolingHost.CommandLine.Survey

/-- The variables that a run may read besides those that settings refer to. -/
def knownVariables : List String := ["HOME", "XDG_DATA_HOME", "PATH", filterVariable]

/-- The names between the `${` and `}` of a text. -/
def referenced (setting : String) : List String :=
  (setting.splitOn (String.ofList Config.Expansion.opening)).drop 1 |>.map fun part =>
    String.ofList (part.toList.takeWhile (· != '\x7d'))

/-- The variables that settings refer to. -/
def settingVariables (settings : Config.Settings) : List String :=
  Subsystem.all.flatMap fun s => referenced (settings.subsystem s).path

/-- The paths that a run looks at before it knows its settings. -/
def startPaths (env : Environment) (a : Arguments) : List FilePath :=
  let home? := env.homeDir?
  (a.config.orElse fun _ => Config.configPath? home?).toList ++ logCandidates home? ++
    [a.workspace.getD usualWorkspace] ++
    (a.storage.orElse fun _ => Config.defaultStorage? env home?).toList

/-- The paths at which the executables may be. -/
def executablePaths (fs : FileSystem) (env : Environment) (a : Arguments)
    (settings : Config.Settings) : List FilePath :=
  Subsystem.all.flatMap fun s =>
    let e := Executable.ofSubsystem s
    let storage := (a.storage.orElse fun _ => Config.defaultStorage? env env.homeDir?).toList
    ((settings.subsystem s).customPath env).toList ++ storage.map e.installedPath ++
      SearchPath.candidates fs env e.fileName

/-- The entries that are new or have changed, those of directories before those below them. -/
def changes (before after : FileSystem) : List (Location × Entry) :=
  (after.entries.filter fun e => before.lookup e.1 != some e.2).mergeSort fun a b =>
    a.1.length ≤ b.1.length

/-- Where nothing has changed there is nothing to put in place. -/
theorem changes_self_of_lookup {fs : FileSystem}
    (h : ∀ e ∈ fs.entries, fs.lookup e.1 = some e.2) : changes fs fs = [] := by
  have none_left : (fs.entries.filter fun e => fs.lookup e.1 != some e.2) = [] := by
    rw [List.filter_eq_nil_iff]
    intro e he
    simp [h e he]
  simp [changes, none_left]

end ToolingHost.CommandLine.Survey

/-! ## The program

Takes a picture of the files that a run may look at, works out the run, prints what it prints, and
puts the entries that it changed in place. This front end starts no other programs: in its picture
no file is one that can be started. -/

namespace ToolingHost.Main

open CommandLine

/-- The picture of a file with what is read from it. -/
def withFile (fs : FileSystem) (location : Location) (content : IO ByteArray) : IO FileSystem := do
  try
    return fs.put location (.file (← content).toList 0o755)
  catch _ => return (fs.put location (.file [] 0o755)).deny .read location

/-- Adds what is at a path to a picture of the file system. The content of a file is read only if it
is asked for. A directory that may not be searched is marked as such. -/
def look (readContent : Bool) (fs : FileSystem) (path : FilePath) : IO FileSystem := do
  let names := FileSystem.namesOf path.bytes
  let location := if path.isAbsolute then names else fs.workingDir ++ names
  try
    let place ← IO.FS.realPath (FileSystem.pathOf location).display
    match (← place.metadata).type with
    | .dir => return fs.put location .dir
    | .file =>
      withFile fs location (if readContent then IO.FS.readBinFile place else pure .empty)
    | _ => return fs.put location (.special none)
  catch
    | .permissionDenied .. => return fs.deny .execute location.dropLast
    | _ => return fs

/-- Adds what is at paths, and at the directories above them. -/
def lookAll (readContent : Bool) (fs : FileSystem) (paths : List FilePath) : IO FileSystem :=
  (paths.flatMap fun path => path.ancestors.reverse).foldlM (look readContent) fs

/-- The values of variables. -/
def readVariables (names : List String) : IO Environment := do
  let entries ← names.eraseDups.filterMapM fun name => do
    return (← IO.getEnv name).map fun value => (Bytes.ofString name, Bytes.ofString value)
  return ⟨entries⟩

/-- Puts a changed entry in place. -/
def putInPlace : Location × Entry → IO Unit
  | (location, .dir) => IO.FS.createDirAll (FileSystem.pathOf location).display
  | (location, .file content _) =>
    IO.FS.writeBinFile (FileSystem.pathOf location).display ⟨content.toArray⟩
  | (_, .special _) | (_, .link _) => pure ()

/-- The machine on which the program runs. -/
def survey (arguments : Arguments) : IO Machine := do
  let here := FilePath.ofString (← IO.currentDir).toString
  let env ← readVariables Survey.knownVariables
  let empty : FileSystem := ⟨[], FileSystem.namesOf here.bytes, []⟩
  let fs ← lookAll true empty (here :: Survey.startPaths env arguments)
  let stamp := toString (← IO.monoMsNow)
  let machine : Machine := ⟨fs, env, none, fun _ => false, fun _ _ => ⟨[], none, []⟩, stamp⟩
  match loadSettings machine arguments with
  | .error _ => return machine
  | .ok settings =>
    let settings := settings.getD .initial
    let env ← readVariables (Survey.knownVariables ++ Survey.settingVariables settings)
    let fs ← lookAll false fs (Survey.executablePaths fs env arguments settings)
    return { machine with fs, env }

/-- Prints a report and puts its changes in place. -/
def deliver (before : FileSystem) (report : Report) : IO UInt32 := do
  (Survey.changes before report.fs).forM putInPlace
  report.output.forM IO.println
  report.errors.forM IO.eprintln
  return report.exitCode.toUInt32

end ToolingHost.Main

/-- Runs the program. -/
def main (arguments : List String) : IO UInt32 := do
  let arguments := arguments.map ToolingHost.Bytes.ofString
  let given := match ToolingHost.CommandLine.Request.ofArguments arguments with
    | .run given => given
    | _ => .empty
  let machine ← ToolingHost.Main.survey given
  ToolingHost.Main.deliver machine.fs (ToolingHost.CommandLine.run machine arguments)
