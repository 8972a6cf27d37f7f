import ToolingHost.Context
import ToolingHost.FileSystem.Operations
import ToolingHost.Status.Scope
import ToolingHost.Subsystem

/-! # Activators and their tasks

An activator starts a subsystem; a task runs it, and shows how far it has come. -/

/-! ## What activators do

An activator starts one subsystem. To the rest of the program it is a sequence of acts, some of
which wait for something outside, and an ending. It may also break down before the first act. An
activator is given the path that the settings name for its executable, and sees the file system as
it is when it is called. -/

namespace ToolingHost.Activation

/-- Something that an activator does. -/
inductive Act where
  /-- Replaces the status message. -/
  | update (message : String)
  /-- Shows an observer that it has come here. -/
  | mark (note : Json.Value)
  /-- Waits until a gate is open. -/
  | wait (gate : String)
  /-- Opens a gate, for good. -/
  | openGate (gate : String)
  /-- Arrives where two activators meet. -/
  | meet
  /-- Waits, as the one that arrived in a place, for the other of its pair. -/
  | meeting (place : Nat)
  /-- Adds a subscription. -/
  | subscribe (subscription : Subscription)
  /-- Keeps the handle of its status entry beyond its end. -/
  | keep
  /-- Registers a debug adapter with the host. -/
  | register (registration : DebugAdapter.Registration)
  /-- Starts a program with arguments. -/
  | start (program : FilePath) (args : List String)
  /-- Writes into the log. -/
  | log (record : Log.Record)

/-- How an activator ends. -/
inductive Ending where
  /-- The subsystem has been started. -/
  | succeed
  /-- The subsystem cannot be started; the causes, outermost first. -/
  | fail (chain : List String)
  /-- The activator breaks down. -/
  | panic
  deriving DecidableEq, Repr

/-- What an activator does when it is called. -/
structure Behaviour where
  /-- Whether it breaks down before the first act. -/
  panicsAtOnce : Bool
  /-- What it does, in order. -/
  acts : List Act
  /-- How it ends. -/
  ending : Ending

/-- The activators of the subsystems. -/
abbrev Activators := Subsystem → Option FilePath → FileSystem → Behaviour

/-! ## Tasks

Each subsystem that is launched gets a task: a spinning status scope around a call of its activator.
Tasks of all launches share a world: the file system, the context, the gates, and the meeting place.
`World.stepTask?` makes the next step of one task, if it does not wait for something; a task has
settled when its scope is closed, or when it has been cancelled. -/

/-- How the call of an activator that did not break down ended. -/
inductive Result where
  /-- The subsystem has been started. -/
  | succeeded
  /-- The subsystem cannot be started; the causes, outermost first. -/
  | failed (chain : List String)
  deriving DecidableEq, Repr

/-- How a task settled. -/
inductive Settled where
  /-- Its activator ended. -/
  | ended (result : Result)
  /-- It broke down. -/
  | panicked
  /-- It was cancelled. -/
  | cancelled
  deriving DecidableEq, Repr

/-- What is left of a call of an activator. -/
structure Body where
  /-- The acts. -/
  acts : List Act
  /-- The ending. -/
  ending : Ending

/-- The result of an ending; breaking down has none. -/
def Ending.result? : Ending → Option Result
  | .succeed => some .succeeded
  | .fail chain => some (.failed chain)
  | .panic => none

/-- A task. -/
structure Task where
  /-- The subsystem that it starts. -/
  subsystem : Subsystem
  /-- The path that the settings name for the executable. -/
  customPath : Option FilePath
  /-- Its status scope. -/
  scope : Scope Body Result
  /-- Whether it was cancelled. -/
  cancelled : Bool

/-- A task that has done nothing. -/
def Task.fresh (subsystem : Subsystem) (customPath : Option FilePath) : Task :=
  ⟨subsystem, customPath, .fresh, false⟩

/-- The scope of a task that goes on with the given acts. -/
def Task.goOn (t : Task) (acts : List Act) (ending : Ending) : Scope Body Result :=
  { t.scope with phase := .running ⟨acts, ending⟩ }

/-- How a task settled, if it has. -/
def Task.settled? (t : Task) : Option Settled :=
  if t.cancelled then some .cancelled
  else
    match t.scope.phase with
    | .closed (some result) => some (.ended result)
    | .closed none => some .panicked
    | _ => none

/-- Something that happened. -/
inductive Event where
  /-- The host was called. -/
  | host (call : HostCall)
  /-- An activator was called; whether the storage directory was there. -/
  | called (subsystem : Subsystem) (customPath : Option FilePath) (stored : Bool)
  /-- An activator came to a mark. -/
  | marked (subsystem : Subsystem) (note : Json.Value)
  /-- A program was started with arguments. -/
  | started (program : FilePath) (args : List String)
  /-- A subscription was disposed of. -/
  | disposed (disposed : Disposed)
  /-- Something was written into the log. -/
  | logged (record : Log.Record)

/-- What tasks share. -/
structure World where
  /-- The file system. -/
  fs : FileSystem
  /-- The context. -/
  context : Context
  /-- The gates that are open. -/
  gates : List String
  /-- How many activators have arrived at the meeting place. -/
  arrivals : Nat
  /-- The tasks whose status handles were kept, the last one first. -/
  kept : List (Subsystem × Nat)
  /-- All tasks, in the order of their launch. -/
  tasks : List Task

namespace World

/-- A world in which nothing has happened. -/
def fresh (fs : FileSystem) (context : Context) : World := ⟨fs, context, [], 0, [], []⟩

/-- The world after calls to the host, with these calls as events. -/
def callHost {α : Type} (w : World) (f : Host → Host × α) : World × List Event × α :=
  let (host, a) := f w.context.host
  let calls := host.history.drop w.context.host.history.length
  ({ w with context := { w.context with host } }, calls.map .host, a)

/-- The world with another scope for a task. -/
def setScope (w : World) (id : Nat) (scope : Scope Body Result) : World :=
  { w with tasks := w.tasks.modify id fun t => { t with scope } }

/-- Whether a gate is open. -/
def isOpen (w : World) (gate : String) : Bool := w.gates.contains gate

/-- The world with a gate opened. -/
def openGate (w : World) (gate : String) : World := { w with gates := gate :: w.gates }

/-- Whether the pair of the one that arrived in a place is complete. -/
def isMet (w : World) (place : Nat) : Bool := (place / 2 + 1) * 2 ≤ w.arrivals

/-- Replaces the status message of an entry through the host. -/
def update (w : World) (entry : StatusEntry) (message : String) : World × List Event × Bool :=
  w.callHost fun host => entry.update host message

/-- The next act of a task, if it does not have to wait. -/
def act? (w : World) (id : Nat) (task : Task) (a : Act) (rest : List Act) (ending : Ending) :
    Option (World × List Event) :=
  let goOn (w : World) (acts : List Act) : World :=
    w.setScope id (task.goOn acts ending)
  match a with
  | .update message =>
    match w.update task.scope.entry message with
    | (w, events, true) => some (goOn w rest, events)
    -- the host refuses the message, and the activator breaks down
    | (w, events, false) => some (w.setScope id (task.scope.finish none), events)
  | .mark note => some (goOn w rest, [.marked task.subsystem note])
  | .wait gate => if w.isOpen gate then some (goOn w rest, []) else none
  | .openGate gate => some (goOn (w.openGate gate) rest, [])
  | .meet =>
    let place := w.arrivals
    some (goOn { w with arrivals := place + 1 } (.meeting place :: rest), [])
  | .meeting place => if w.isMet place then some (goOn w rest, []) else none
  | .subscribe subscription =>
    let subscriptions := w.context.subscriptions.push subscription
    some (goOn { w with context := { w.context with subscriptions } } rest, [])
  | .keep => some (goOn { w with kept := (task.subsystem, id) :: w.kept } rest, [])
  | .register registration =>
    let (w, events, _) := w.callHost fun host =>
      (host.tell (.registerDebugAdapter registration), ())
    some (goOn w rest, events)
  | .start program args => some (goOn w rest, [.started program args])
  | .log record => some (goOn w rest, [.logged record])

/-- The call of the activator of a task. -/
def callActivator (activators : Activators) (w : World) (id : Nat) (task : Task) :
    World × List Event :=
  let b := activators task.subsystem task.customPath w.fs
  let scope := if b.panicsAtOnce then task.scope.finish none
    else task.goOn b.acts b.ending
  (w.setScope id scope, [.called task.subsystem task.customPath (w.fs.isDir w.context.storage)])

/-- The next step of a task, if it has not settled and does not have to wait. -/
def stepTask? (activators : Activators) (w : World) (id : Nat) : Option (World × List Event) :=
  match w.tasks[id]? with
  | none => none
  | some task =>
    if task.cancelled then none
    else
      match task.scope.phase with
      | .closed _ => none
      | .shown => some (w.callActivator activators id task)
      | .running ⟨[], ending⟩ => some (w.setScope id (task.scope.finish ending.result?), [])
      | .running ⟨a :: rest, ending⟩ => w.act? id task a rest ending
      | _ =>
        let (w, events, scope) := w.callHost fun host => task.scope.advance host
        some (w.setScope id scope, events)

/-- Cancels a task, unless it has settled: its status item is disposed of. -/
def cancel (w : World) (id : Nat) : World × List Event :=
  match w.tasks[id]? with
  | none => (w, [])
  | some task =>
    if task.settled?.isSome then (w, [])
    else
      let (w, events, _) := w.callHost fun host => task.scope.entry.dispose host
      ({ w with
          tasks := w.tasks.modify id fun t =>
            { t with scope := ⟨task.scope.entry.released, .closed none⟩, cancelled := true } },
        events)

end World

end ToolingHost.Activation
