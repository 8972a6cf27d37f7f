import ToolingHost.Activation.Task
import ToolingHost.Client.Rehearsal
import ToolingHost.Config.Settings
import ToolingHost.DebugAdapter
import ToolingHost.Executable.Locate
import ToolingHost.Executable.Start
import ToolingHost.Secret

/-! # The activators of the Kotlin subsystems

The language server is located and started, and a conversation with it is opened; the client that
holds the conversation becomes a subscription. The debug adapter is located and registered with the
host, which starts it when it needs it. Each activator shows a status message before each of these
stages, and stops at the first that fails.

What they meet outside the program is a parameter: which files are programs, and how the server
answers. -/

namespace ToolingHost.Activation.Kotlin

open Executable (languageServer debugAdapter)

/-- What came of the dialogue with a server that was started. -/
structure Dialogue where
  /-- What the client wrote into the log until the conversation was open or had failed. -/
  opening : List Log.Record
  /-- Why the conversation could not be opened, if it could not. -/
  failure : Option Client.Failure
  /-- What the client wrote into the log from then on. -/
  closing : List Log.Record

/-- What the activators meet outside the program. -/
structure Surroundings where
  /-- The environment. -/
  env : Environment
  /-- The directory for installed executables and for the server's files. -/
  storage : FilePath
  /-- Which contents of files are programs. -/
  isProgram : Bytes → Bool
  /-- The dialogue with the server. -/
  dialogue : Dialogue

/-- A status message about a stage of an activator. -/
def stageMessage (stage : String) (e : Executable) : String :=
  stage ++ " " ++ e.displayName ++ "..."

/-- The part of the program that the language server's activator logs as. -/
def serverTarget : String := "kide_lsp::activator"

/-- The part of the program that the debug adapter's activator logs as. -/
def adapterTarget : String := "kide_dap"

/-- The record of the executable that is used. -/
def usingRecord (target : String) (e : Executable) (found : Executable.Located) : Log.Record :=
  ⟨.info, target, "Using " ++ e.displayName,
    [("path", .shown found.path.display), ("source", .shown found.source.name)]⟩

/-- The record of a conversation that is open. -/
def openedRecord : Log.Record :=
  ⟨.info, serverTarget, languageServer.displayName ++ " initialized", []⟩

/-- The record of a debug adapter that is registered. -/
def registeredRecord : Log.Record :=
  ⟨.info, adapterTarget,
    debugAdapter.displayName ++ " registered for debug type '" ++
      DebugAdapter.Kotlin.debugType ++ "'",
    []⟩

/-- The causes of a conversation that could not be opened, outermost first. -/
def openingChain (failure : Client.Failure) : List String :=
  (languageServer.displayName ++ " failed to initialize") ::
    failure.chain languageServer.displayName

/-- Goes on with more acts before those of a behaviour. -/
def andThen (acts : List Act) (b : Behaviour) : Behaviour := { b with acts := acts ++ b.acts }

/-- Does nothing but end. -/
def ends (ending : Ending) : Behaviour := ⟨false, [], ending⟩

/-- Locates an executable, and goes on with what is to be done with it. -/
def locating (s : Surroundings) (fs : FileSystem) (target : String) (e : Executable)
    (custom : Option FilePath) (next : Executable.Located → Behaviour) : Behaviour :=
  andThen [.update (stageMessage "Locating" e)] <|
    match Executable.locate fs s.env e custom s.storage with
    | .error failure => ends (.fail failure.chain)
    | .ok found =>
      andThen ((found.warnings fs).map .log ++ [.log (usingRecord target e found)]) (next found)

/-- Opens the conversation with a server that was started. -/
def «opening» (dialogue : Dialogue) : Behaviour :=
  andThen (.update (stageMessage "Initializing" languageServer) :: dialogue.opening.map .log) <|
    match dialogue.failure with
    | some failure => ends (.fail (openingChain failure))
    | none =>
      andThen [.subscribe (.plain languageServer.displayName), .log openedRecord] (ends .succeed)

/-- How the server at a path is started: without the variables that hold secrets. -/
def serverCommand (s : Surroundings) (args : List String) (path : FilePath) : Program.Command :=
  ⟨path, args.map Bytes.ofString, s.env, Secret.scrub s.env⟩

/-- Starts the server at a path. -/
def starting (s : Surroundings) (fs : FileSystem) (args : List String) (path : FilePath) :
    Behaviour :=
  andThen [.update (stageMessage "Starting" languageServer)] <|
    match Program.start? s.isProgram fs (serverCommand s args path) with
    | .error failure => ends (.fail (failure.chain path))
    | .ok _ => andThen [.start path args] («opening» s.dialogue)

/-- Starts the language server. -/
def activateServer (s : Surroundings) (args : List String) (custom : Option FilePath)
    (fs : FileSystem) : Behaviour :=
  locating s fs serverTarget languageServer custom fun found => starting s fs args found.path

/-- Registers the debug adapter. -/
def registerAdapter (s : Surroundings) (args : List String) (custom : Option FilePath)
    (fs : FileSystem) : Behaviour :=
  locating s fs adapterTarget debugAdapter custom fun found =>
    ⟨false,
      [.update (stageMessage "Registering" debugAdapter),
        .register (DebugAdapter.Kotlin.registration found.path args), .log registeredRecord],
      .succeed⟩

/-- The activators, each with the arguments that the settings give its subsystem. -/
def activators (s : Surroundings) (settings : Config.Settings) : Activators
  | .languageServer => activateServer s (settings.subsystem .languageServer).args
  | .debugAdapter => registerAdapter s (settings.subsystem .debugAdapter).args

/-! ## Servers that follow a script -/

/-- The conversation with a server that follows a script. It is closed only if it was opened. -/
def rehearse (processId : Json.Value) (script : List Client.ScriptLine)
    (workspace storage : FilePath) : Client.Rehearsal :=
  let run := Client.Rehearsal.run languageServer.displayName processId script
  let whole := run [.open workspace storage, .close]
  if whole.outcomes.head? = some .opened then whole else run [.open workspace storage]

/-- Whether a call on the client returned. -/
def isReturn : Client.Event → Bool
  | .returned _ => true
  | _ => false

/-- What was written into the log in the course of some events. -/
def recordsOf (events : List Client.Event) : List Log.Record :=
  events.filterMap fun
    | .logged _ record => some record
    | _ => none

/-- The dialogue that a conversation was. -/
def dialogueOf (r : Client.Rehearsal) : Dialogue where
  opening := recordsOf (r.events.takeWhile fun e => !isReturn e)
  failure := r.outcomes.findSome? fun
    | .failed failure => some failure
    | _ => none
  closing := recordsOf (r.events.dropWhile fun e => !isReturn e)

end ToolingHost.Activation.Kotlin
