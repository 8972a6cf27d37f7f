import ToolingHost.Activation.Coordinator

/-! # Running activation on one thread

On one thread, tasks run in the order in which they became ready. A task runs until it has settled
or has to wait; one that can go on again comes last in the queue. Activation looks at the tasks when
none is ready. So this is one particular run of `Run.step?`, and where activation can never return,
it is stuck. -/

namespace ToolingHost.Activation

/-- A run with the queue of its thread. -/
structure Schedule where
  /-- The run. -/
  run : Run
  /-- The tasks that are ready, the next one first. -/
  ready : List Nat
  /-- The tasks that wait, the one that has waited longest first. -/
  parked : List Nat
  /-- What has happened, in order. -/
  events : List Event

/-- How activation ended on a thread. -/
inductive Finish where
  /-- It returned. -/
  | returned (result : Except Error Summary)
  /-- It was given up before it returned. -/
  | dropped
  /-- It will never return. -/
  | stuck

/-- What does not change in the course of an activation. -/
structure Setup where
  /-- The activators. -/
  activators : Activators
  /-- The settings. -/
  settings : Config.Settings
  /-- The environment. -/
  env : Environment

namespace Schedule

/-- A thread on which nothing has happened. -/
def fresh (world : World) : Schedule := ⟨⟨.starting, world⟩, [], [], []⟩

/-- The world. -/
def world (s : Schedule) : World := s.run.world

/-- The schedule with another world and more events. -/
def setWorld (s : Schedule) (world : World) (events : List Event) : Schedule :=
  { s with run := { s.run with world }, events := s.events ++ events }

/-- Moves the waiting tasks that can go on into the queue. -/
def wake (setup : Setup) (s : Schedule) : Schedule :=
  let canGoOn (id : Nat) : Bool := (s.world.stepTask? setup.activators id).isSome
  { s with ready := s.ready ++ s.parked.filter canGoOn,
           parked := s.parked.filter fun id => !canGoOn id }

/-- Makes a step, if it is possible. -/
def play? (setup : Setup) (s : Schedule) (action : Action) : Option Schedule :=
  (s.run.step? setup.activators setup.settings setup.env action).map fun (run, events) =>
    wake setup { s with run, events := s.events ++ events }

/-- A bound on the steps of a task: a few around its acts, and at most two for each act. -/
def taskFuel (setup : Setup) (w : World) (t : Task) : Nat :=
  let acts := match t.scope.phase with
    | .running body => body.acts
    | _ => (setup.activators t.subsystem t.customPath w.fs).acts
  8 + 2 * acts.length

/-- Lets a task run until it has settled or has to wait, for at most `fuel` steps. -/
def runTask (setup : Setup) (id : Nat) : (fuel : Nat) → Schedule → Schedule
  | 0, s => s
  | fuel + 1, s =>
    match s.play? setup (.task id) with
    | some next => runTask setup id fuel next
    | none =>
      match s.world.tasks[id]? with
      | some task => if task.settled?.isSome then s else { s with parked := s.parked ++ [id] }
      | none => s

/-- Lets tasks run until none is ready, for at most `fuel` turns. -/
def drainFor (setup : Setup) : (fuel : Nat) → Schedule → Schedule
  | 0, s => s
  | fuel + 1, s =>
    match s.ready with
    | [] => s
    | id :: rest =>
      let s := { s with ready := rest }
      let steps := match s.world.tasks[id]? with
        | some task => taskFuel setup s.world task
        | none => 0
      drainFor setup fuel (runTask setup id steps s)

/-- Lets tasks run until none is ready. Every turn of a task makes at least one of its steps. -/
def drain (setup : Setup) (s : Schedule) : Schedule :=
  drainFor setup (s.world.tasks.foldl (fun n task => n + taskFuel setup s.world task) 0) s

/-- Whether activation has launched everything, or has returned. -/
def isLaunched (s : Schedule) : Bool :=
  match s.run.stage with
  | .watching .. | .returned _ => true
  | _ => false

/-- Lets activation go on until everything is launched; the new tasks are ready. -/
def launchFor (setup : Setup) : (fuel : Nat) → Schedule → Schedule
  | 0, s => s
  | fuel + 1, s =>
    if s.isLaunched then s
    else
      match s.play? setup .coordinator with
      | none => s
      | some next =>
        let known := s.world.tasks.length
        let added := (List.range next.world.tasks.length).drop known
        launchFor setup fuel { next with ready := next.ready ++ added }

/-- Lets activation go on until everything is launched: two steps come before the plan and one after
it. -/
def launch (setup : Setup) (s : Schedule) : Schedule :=
  launchFor setup (Subsystem.all.length + 3) s

/-- Lets activation look at all tasks once. -/
def lookFor (setup : Setup) : (fuel : Nat) → Schedule → Schedule
  | 0, s => s
  | fuel + 1, s =>
    match s.play? setup .coordinator with
    | none => s
    | some next => lookFor setup fuel next

/-- The number of steps of one round. -/
def roundLength (s : Schedule) : Nat :=
  match s.run.stage with
  | .watching progress _ _ => progress.launches.length + 1
  | _ => 0

/-- Lets activation look at all tasks once. -/
def look (setup : Setup) (s : Schedule) : Schedule := lookFor setup s.roundLength s

/-- How activation ended. -/
def finish (s : Schedule) : Finish :=
  match s.run.stage with
  | .returned result => .returned result
  | _ => .stuck

/-- Runs an activation. If a gate is named and gets open before activation returns, activation is
given up. -/
def activate (setup : Setup) (dropGate : Option String) (s : Schedule) : Schedule × Finish :=
  let s := launch setup s
  match s.run.stage with
  | .returned result => (s, .returned result)
  | _ =>
    let s := drain setup s
    if dropGate.any s.world.isOpen then (s, .dropped)
    else
      let s := look setup s
      (s, s.finish)

/-- Cancels every task that has not settled. -/
def shutdown (s : Schedule) : Schedule :=
  (List.range s.world.tasks.length).foldl (fun s id =>
    let (world, events) := s.world.cancel id
    s.setWorld world events) { s with ready := [], parked := [] }

/-- Runs an activation on a thread that is shut down before any task has run. -/
def activateAndShutdown (setup : Setup) (s : Schedule) : Schedule × Finish :=
  let s := look setup (launch setup s).shutdown
  (s, s.finish)

/-- Opens a gate, and lets tasks run. -/
def openGate (setup : Setup) (gate : String) (s : Schedule) : Schedule :=
  drain setup ((s.play? setup (.openGate gate)).getD s)

/-- Replaces the status message of a subsystem through a handle that its activator has kept. -/
def updateLate (subsystem : Subsystem) (message : String) (s : Schedule) : Schedule :=
  match (s.world.kept.lookup subsystem).bind fun id => s.world.tasks[id]? with
  | none => s
  | some task =>
    let (world, events, _) := s.world.update task.scope.entry message
    s.setWorld world events

/-- Releases the subscriptions. -/
def release (s : Schedule) : Schedule :=
  let context := s.world.context
  let (subscriptions, disposed, _) := context.subscriptions.release
  s.setWorld { s.world with context := { context with subscriptions } }
    (disposed.flatMap fun d => [.logged (Subscriptions.disposedRecord d), .disposed d])

/-- Ends the extension; what runs is released through its subscriptions. -/
def deactivate (s : Schedule) : Schedule := s.setWorld s.world [.logged deactivationRecord]

/-- Starts another activation in the world that this one leaves. -/
def again (s : Schedule) : Schedule := { s with run := ⟨.starting, s.world⟩, events := [] }

end Schedule

end ToolingHost.Activation
