import ToolingHost.Activation.Kotlin
import ToolingHost.Activation.Schedule
import ToolingHost.CommandLine.Arguments
import ToolingHost.CommandLine.Journal
import ToolingHost.Config.Load
import ToolingHost.Host.Terminal

/-! # A run of the program

The program loads the settings, opens the log, finds the workspace, prepares the place of the
storage directory, and activates the subsystems with the terminal as their host. Then it waits until
it is interrupted, and releases what it started. Each stage that fails ends the run; nothing of a
later stage has been done then. -/

namespace ToolingHost.CommandLine

open Activation (Finish Summary)

/-- What a run finds around it. -/
structure Machine where
  /-- The file system. -/
  fs : FileSystem
  /-- The environment. -/
  env : Environment
  /-- The home directory of the user's account. -/
  account : Option FilePath
  /-- Which contents of files are programs. -/
  isProgram : Bytes → Bool
  /-- What comes of the dialogue with the server about a workspace, with a storage directory. -/
  dialogue : FilePath → FilePath → Activation.Kotlin.Dialogue
  /-- The time stamp of log lines. -/
  stamp : String

/-- The home directory of the user. -/
def Machine.home? (m : Machine) : Option FilePath := Config.homeDir? m.env m.account

/-- What a run leaves behind. -/
structure Report where
  /-- The exit code. -/
  exitCode : Nat
  /-- Whether it ran until it was interrupted. -/
  interrupted : Bool
  /-- The lines of the output. -/
  output : List String
  /-- The lines of the error stream. -/
  errors : List String
  /-- The file system. -/
  fs : FileSystem
  /-- The activation, if the run got so far. -/
  activation : Option Activation.Schedule

/-- The exit code of a run without failure. -/
def success : Nat := 0

/-- The exit code of a run that failed. -/
def failure : Nat := 1

/-- The exit code of a run with arguments that make no sense. -/
def misuse : Nat := 2

/-- The exit code of a run that is killed by an interrupt. -/
def killed : Nat := 130

/-- The variable that holds the log filter. -/
def filterVariable : String := "RUST_LOG"

/-! ## The stages -/

/-- The settings that the arguments choose. -/
def loadSettings (m : Machine) (a : Arguments) :
    Except Config.LoadError (Option Config.Settings) :=
  match a.config with
  | some path => Config.loadFrom m.fs path
  | none => Config.load m.fs m.home?

/-- The filter of the log. -/
def chooseFilter (m : Machine) (loaded : Except Config.LoadError (Option Config.Settings)) :
    Log.Filter :=
  let configured := match loaded with
    | .ok (some settings) => settings.logFilter
    | _ => none
  .choose (m.env.text? filterVariable) configured

/-- The workspace when none is given. -/
def usualWorkspace : FilePath := .ofString "."

/-- The path of the workspace, or why there is none. -/
def workspace? (fs : FileSystem) (a : Arguments) : Except String FilePath :=
  let path := a.workspace.getD usualWorkspace
  match fs.canonical? path with
  | .ok workspace => .ok workspace
  | .error cause => .error ("workspace " ++ path.display ++ " not found: " ++ cause.message)

/-- Makes the directories above the storage directory, which is the usual one if none is asked for;
gives its path, or why they cannot be made. -/
def prepareStorage (fs : FileSystem) (usual? : Option FilePath) (a : Arguments) :
    FileSystem × Except String FilePath :=
  match a.storage.orElse fun _ => usual? with
  | none => (fs, .error "no platform data directory for global storage")
  | some path =>
    let parent := path.parent?.getD ⟨[]⟩
    match fs.makeDirs parent with
    | (fs, .ok ()) => (fs, .ok path)
    | (fs, .error cause) =>
      (fs, .error ("failed to create " ++ parent.display ++ ": " ++ cause.message))

/-- A summary for the user. -/
def describe (summary : Summary) : String :=
  let names (list : List Subsystem) : String := ", ".intercalate (list.map Subsystem.label)
  if summary.launched.isEmpty then "no subsystems enabled"
  else if summary.skipped.isEmpty then "started " ++ names summary.launched
  else "started " ++ names summary.launched ++ "; skipped " ++ names summary.skipped

/-- A failure of activation with its causes on one line. -/
def explain (e : Activation.Error) : String := ": ".intercalate (e.message :: e.causes)

/-! ## Records -/

/-- The record of the start of activation. -/
def activatingRecord (workspace storage : FilePath) : Log.Record :=
  ⟨.info, logTarget, "Activating Kotlin tooling",
    [("workspace", .shown workspace.display), ("storage", .shown storage.display)]⟩

/-- The record of an activation that is complete. -/
def completeRecord (terminal : TerminalHost) : Log.Record :=
  ⟨.info, logTarget, "Activation complete",
    [("languages", .shown (Text.Quoted.ofList (terminal.languages.map Prod.fst))),
      ("debug_types", .shown (Text.Quoted.ofList terminal.debugTypes))]⟩

/-- The record of settings that cannot be loaded. -/
def loadFailureRecord (e : Config.LoadError) : Log.Record :=
  ⟨.error, logTarget, e.message, [("path", .shown e.path.display)]⟩

/-- The record of another failure. -/
def failureRecord (message : String) : Log.Record := ⟨.error, logTarget, message, []⟩

/-! ## Putting the stages together -/

/-- The journal and the terminal while the subsystems run. -/
structure Console where
  /-- The journal. -/
  journal : Journal
  /-- The terminal. -/
  terminal : TerminalHost

/-- Writes about something that happened. Whatever is disposed of is the client of the server. -/
def Console.witness (dialogue : Activation.Kotlin.Dialogue) (c : Console) :
    Activation.Event → Console
  | .host call =>
    let (terminal, records) := c.terminal.receive call
    ⟨c.journal.logAll records, terminal⟩
  | .logged record => { c with journal := c.journal.log record }
  | .disposed _ => { c with journal := c.journal.logAll dialogue.closing }
  | .called .. | .marked .. | .started .. => c

/-- Writes about several things that happened, in order. -/
def Console.witnessAll (dialogue : Activation.Kotlin.Dialogue) (c : Console)
    (events : List Activation.Event) : Console :=
  events.foldl (witness dialogue) c

/-- The end of a run with a failure, of which a record is written. -/
def failWith (j : Journal) (message : String) (record : Log.Record)
    (activation : Option Activation.Schedule) : Report :=
  let j := (j.log record).complain ("Error: " ++ message)
  ⟨failure, false, [], j.errors, j.fs, activation⟩

/-- Activates the subsystems, waits for the interrupt, and releases what was started. -/
def serve (m : Machine) (settings : Config.Settings) (j : Journal) (workspace storage : FilePath) :
    Report :=
  let dialogue := m.dialogue workspace storage
  let around : Activation.Kotlin.Surroundings := ⟨m.env, storage, m.isProgram, dialogue⟩
  let setup : Activation.Setup :=
    ⟨Activation.Kotlin.activators around settings, settings, m.env⟩
  let j := j.log (activatingRecord workspace storage)
  let context := Context.fresh Faults.none storage workspace
  let (done, finish) :=
    (Activation.Schedule.fresh (.fresh j.fs context)).activate setup none
  let console := Console.witnessAll dialogue ⟨{ j with fs := done.world.fs }, .fresh⟩ done.events
  let released := done.deactivate.release
  let close (c : Console) : Console :=
    c.witnessAll dialogue (released.events.drop done.events.length)
  match finish with
  | .returned (.ok summary) =>
    let told := (console.journal.complain (programName ++ ": " ++ describe summary)).log
      (completeRecord console.terminal)
    let last := (close { console with journal := told }).journal
    ⟨success, true, [], last.errors, last.fs, some released⟩
  | .returned (.error e) =>
    failWith (close console).journal (explain e) (failureRecord (explain e)) (some released)
  | .dropped | .stuck =>
    ⟨killed, true, [], console.journal.errors, console.journal.fs, some done⟩

/-- A run with given values of the options. -/
def runWith (m : Machine) (a : Arguments) : Report :=
  let loaded := loadSettings m a
  let j := Journal.start m.fs m.home? (chooseFilter m loaded) m.stamp
  match loaded with
  | .error e => failWith j e.message (loadFailureRecord e) none
  | .ok settings =>
    match workspace? j.fs a with
    | .error message => failWith j message (failureRecord message) none
    | .ok workspace =>
      match prepareStorage j.fs (Config.defaultStorage? m.env m.home?) a with
      | (fs, .error message) => failWith { j with fs } message (failureRecord message) none
      | (fs, .ok storage) => serve m (settings.getD .initial) { j with fs } workspace storage

/-- A run with arguments. -/
def run (m : Machine) (arguments : List Bytes) : Report :=
  match Request.ofArguments arguments with
  | .flag flag => ⟨success, false, flag.lines, [], m.fs, none⟩
  | .refuse mistake => ⟨misuse, false, [], mistake.lines, m.fs, none⟩
  | .run a => runWith m a

/-- A run that only prints about itself changes no file. -/
theorem fs_run_of_flag {m : Machine} {arguments : List Bytes} {flag : Flag}
    (h : Request.ofArguments arguments = .flag flag) : (run m arguments).fs = m.fs := by
  simp [run, h]

end ToolingHost.CommandLine
