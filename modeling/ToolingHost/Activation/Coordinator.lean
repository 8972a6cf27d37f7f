import ToolingHost.Activation.Task
import ToolingHost.Config.Settings
import ToolingHost.LanguageRules.Basic
import ToolingHost.Storage

/-! # Activation

Activation sets the editing rules, makes the storage directory, and launches a task for every
subsystem that is enabled. Then it watches the tasks: it looks at them in launch order, again and
again, and returns the first failure that it sees, or a summary once all have succeeded. A failure
leaves the other task alone. Everything is cut into small steps, between which the tasks may make
theirs. -/

namespace ToolingHost.Activation

/-- Why activation failed. -/
inductive Error where
  /-- The storage directory cannot be made. -/
  | storage (path : FilePath) (cause : IoError)
  /-- A subsystem cannot be started; the causes, outermost first. -/
  | subsystem (subsystem : Subsystem) (chain : List String)
  /-- The task of a subsystem broke down. -/
  | panicked (subsystem : Subsystem)
  /-- The task of a subsystem was cancelled. -/
  | cancelled (subsystem : Subsystem)
  deriving DecidableEq, Repr

/-- The subsystem with which activation failed. -/
def Error.subsystem? : Error → Option Subsystem
  | .storage .. => none
  | .subsystem s _ => some s
  | .panicked s => some s
  | .cancelled s => some s

/-- The text of a failure. -/
def Error.message : Error → String
  | .storage path _ => "failed to create global storage directory " ++ path.display
  | .subsystem s _ => s.label ++ " " ++ s.launchVerb ++ " failed"
  | .panicked s => s.label ++ " " ++ s.launchVerb ++ " panicked"
  | .cancelled s => s.label ++ " " ++ s.launchVerb ++ " was cancelled"

/-- The causes of a failure, outermost first. -/
def Error.causes : Error → List String
  | .storage _ cause => [cause.message]
  | .subsystem _ chain => chain
  | _ => []

/-- What activation did. -/
structure Summary where
  /-- The subsystems that were launched, in launch order. -/
  launched : List Subsystem
  /-- The subsystems that the settings disable. -/
  skipped : List Subsystem
  /-- What was found in place of the storage directory. -/
  storage : Storage.Outcome
  deriving DecidableEq, Repr

/-- What is to be launched: for each subsystem that is enabled, the path of its executable. -/
abbrev Plan := List (Subsystem × Option (Option FilePath))

/-- The plan that settings give. -/
def plan (settings : Config.Settings) (env : Environment) : Plan :=
  Subsystem.all.map fun s =>
    let own := settings.subsystem s
    (s, if own.enabled then some (own.customPath env) else none)

/-- A subsystem that was launched, with its task. -/
abbrev Launch := Subsystem × Nat

/-- What has been launched and skipped so far. -/
structure Progress where
  /-- What was found in place of the storage directory. -/
  storage : Storage.Outcome
  /-- The launches, in order. -/
  launches : List Launch
  /-- The subsystems that were skipped, in order. -/
  skipped : List Subsystem
  deriving DecidableEq, Repr

/-- How far activation has come. -/
inductive Stage where
  /-- The editing rules are set next. -/
  | starting
  /-- The storage directory is made next. -/
  | preparing (plan : Plan)
  /-- The rest of a plan is launched. -/
  | launching (plan : Plan) (progress : Progress)
  /-- The tasks are looked at; those that are left in this round, and whether one that was looked at
  in it had not settled. -/
  | watching (progress : Progress) (left : List Launch) (unsettled : Bool)
  /-- Activation has returned. -/
  | returned (result : Except Error Summary)

/-- The part of the program that log records of this module come from. -/
def logTarget : String := "kide_core::activation"

/-- The record of a subsystem that is skipped. -/
def skipRecord (s : Subsystem) : Log.Record :=
  ⟨.info, logTarget,
    "Skipping " ++ s.label ++ " " ++ s.launchVerb ++ " since '" ++ s.enabledFlag ++ "' is false",
    []⟩

/-- A path that may be missing, as shown in diagnostics. -/
def describePath : Option FilePath → String
  | none => "None"
  | some path => "Some(" ++ Text.Quoted.ofBytes path.bytes ++ ")"

/-- The record of a launch. -/
def launchRecord (s : Subsystem) (customPath : Option FilePath) : Log.Record :=
  ⟨.debug, logTarget, "Launching",
    [("subsystem", .shown s.label), ("custom_path", .shown (describePath customPath))]⟩

/-- The record of the end of a run. -/
def deactivationRecord : Log.Record := ⟨.debug, logTarget, "Kotlin extension deactivated", []⟩

/-- The summary of what was launched. -/
def Progress.summary (p : Progress) : Summary := ⟨p.launches.map Prod.fst, p.skipped, p.storage⟩

/-- The failure that a settled task means, if it means one. -/
def failure? (s : Subsystem) : Settled → Option Error
  | .ended .succeeded => none
  | .ended (.failed chain) => some (.subsystem s chain)
  | .panicked => some (.panicked s)
  | .cancelled => some (.cancelled s)

/-- A round of looking at tasks at its start. -/
def Progress.watch (p : Progress) : Stage := .watching p p.launches false

/-- What looking at one task leads to. -/
def Progress.look (p : Progress) (w : World) (launch : Launch) (left : List Launch)
    (unsettled : Bool) : Stage :=
  match (w.tasks[launch.2]?).bind Task.settled? with
  | none => .watching p left true
  | some settled =>
    match failure? launch.1 settled with
    | some e => .returned (.error e)
    | none => .watching p left unsettled

/-- The next step of activation, unless it has returned. -/
def stepStage? (settings : Config.Settings) (env : Environment) (w : World) :
    Stage → Option (Stage × World × List Event)
  | .starting =>
    let call : HostCall := .setLanguage LanguageRules.Kotlin.languageId LanguageRules.Kotlin.rules
    let (w, events, _) := w.callHost fun host => (host.tell call, ())
    some (.preparing (plan settings env), w, events)
  | .preparing plan =>
    let path := w.context.storage
    let (fs, result) := Storage.ensure w.fs path
    let events := (Storage.records path result).map .logged
    let stage := match result with
      | .ok outcome => .launching plan ⟨outcome, [], []⟩
      | .error cause => .returned (.error (.storage path cause))
    some (stage, { w with fs }, events)
  | .launching [] progress => some (progress.watch, w, [])
  | .launching ((s, some customPath) :: rest) progress =>
    let id := w.tasks.length
    some (.launching rest { progress with launches := progress.launches ++ [(s, id)] },
      { w with tasks := w.tasks ++ [.fresh s customPath] },
      [.logged (launchRecord s customPath)])
  | .launching ((s, none) :: rest) progress =>
    some (.launching rest { progress with skipped := progress.skipped ++ [s] }, w,
      [.logged (skipRecord s)])
  | .watching progress (launch :: left) unsettled =>
    some (progress.look w launch left unsettled, w, [])
  -- the tasks that had not settled are looked at in another round
  | .watching progress [] true => some (progress.watch, w, [])
  | .watching progress [] false => some (.returned (.ok progress.summary), w, [])
  | .returned _ => none

/-- An activation and the world in which it takes place. -/
structure Run where
  /-- How far activation has come. -/
  stage : Stage
  /-- The world. -/
  world : World

/-- What may happen next. -/
inductive Action where
  /-- Activation makes its next step. -/
  | coordinator
  /-- A task makes its next step. -/
  | task (id : Nat)
  /-- A gate is opened from outside. -/
  | openGate (gate : String)
  /-- A task is cancelled. -/
  | cancel (id : Nat)
  deriving DecidableEq, Repr

namespace Run

/-- One step, if it is possible. -/
def step? (activators : Activators) (settings : Config.Settings) (env : Environment) (r : Run) :
    Action → Option (Run × List Event)
  | .coordinator =>
    (stepStage? settings env r.world r.stage).map fun (stage, world, events) =>
      (⟨stage, world⟩, events)
  | .task id =>
    (r.world.stepTask? activators id).map fun (world, events) => ({ r with world }, events)
  | .openGate gate => some ({ r with world := r.world.openGate gate }, [])
  | .cancel id =>
    let (world, events) := r.world.cancel id
    some ({ r with world }, events)

end Run

/-- Every subsystem is planned exactly once. -/
theorem map_fst_plan (settings : Config.Settings) (env : Environment) :
    (plan settings env).map Prod.fst = Subsystem.all := by
  simp [plan, Subsystem.all]

end ToolingHost.Activation
