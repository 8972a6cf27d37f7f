import ToolingHost.Activation.Schedule
import ToolingHost.Proofs.History
import ToolingHost.Proofs.Status.Scope

/-! # The steps of an activation

The steps of activation, of the tasks, and from outside are listed here, one constructor each
(`CoordinatorStep`, `Turn`, `TaskStep`, `Step`), with what they do and what happens in them, and
every possible step is in the list (`step_sound`). A run is taken with all that may disturb it:
tasks may be cancelled, and a handle that an activator has kept may be used at any time. -/

namespace ToolingHost.Activation

/-- Something that may happen in the course of an activation. -/
inductive Happening where
  /-- A step of activation, of a task, or from outside. -/
  | act (action : Action)
  /-- The status message of a task is replaced through a handle that its activator has kept. -/
  | late (id : Nat) (message : String)
  deriving DecidableEq, Repr

/-- The task that something is about. -/
def Happening.subject? : Happening → Option Nat
  | .act (.task id) => some id
  | .act (.cancel id) => some id
  | .late id _ => some id
  | _ => none

/-- What a task was launched for: a subsystem, and the path of its executable. -/
def Task.purpose (t : Task) : Subsystem × Option FilePath := (t.subsystem, t.customPath)

/-- The status item that an event is about. -/
def Event.item? : Event → Option Nat
  | .host (.createItem item) => some item
  | .host (.setText item _) => some item
  | .host (.showItem item) => some item
  | .host (.disposeItem item) => some item
  | _ => none

/-- What is seen when an entry replaces its message. -/
def texting (e : StatusEntry) (message : String) : List Event :=
  e.item.toList.map fun i => .host (.setText i (e.label message))

/-- What is seen when the item of an entry is disposed of. -/
def disposing (e : StatusEntry) : List Event := e.item.toList.map fun i => .host (.disposeItem i)

/-- Whether an event is the call of an activator. -/
def Event.isCall : Event → Bool
  | .called .. => true
  | _ => false

/-- Whether an event sets editing rules. -/
def Event.isRules : Event → Bool
  | .host (.setLanguage ..) => true
  | _ => false

/-- The act by which an activator starts or registers an executable, if an event shows one. -/
def Event.outset? : Event → Option Act
  | .started program args => some (.start program args)
  | .host (.registerDebugAdapter registration) => some (.register registration)
  | _ => none

/-- An event about a status item is no call of an activator, no editing rules and no outset. -/
theorem Event.of_item? {e : Event} {item : Nat} (about : e.item? = some item) :
    e.isCall = false ∧ e.isRules = false ∧ e.outset? = none := by
  unfold Event.item? at about
  split at about
  · exact ⟨rfl, rfl, rfl⟩
  · exact ⟨rfl, rfl, rfl⟩
  · exact ⟨rfl, rfl, rfl⟩
  · exact ⟨rfl, rfl, rfl⟩
  · cases about

/-- What is seen of an act of an activator that is about no status item. -/
def Act.effect (s : Subsystem) : Act → List Event
  | .mark note => [.marked s note]
  | .register registration => [.host (.registerDebugAdapter registration)]
  | .start program args => [.started program args]
  | .log record => [.logged record]
  | .update _ | .wait _ | .openGate _ | .meet | .meeting _ | .subscribe _ | .keep => []

/-- What is seen of such an act is about no status item and is no call of an activator. -/
theorem Act.unrelated_of_mem_effect (a : Act) {s : Subsystem} :
    ∀ e ∈ a.effect s, e.item? = none ∧ e.isCall = false := by
  intro e he
  cases a with
  | mark | register | start | log =>
      rw [List.mem_singleton.mp he]
      exact ⟨rfl, rfl⟩
  | update | wait | openGate | meet | meeting | subscribe | keep => cases he

/-- What is seen of such an act sets no editing rules and shows no other act. -/
theorem Act.of_mem_effect {a : Act} {s : Subsystem} {e : Event} (he : e ∈ a.effect s) :
    e.isRules = false ∧ ∀ b, e.outset? = some b → a = b := by
  cases a with
  | register | start =>
      rw [List.mem_singleton.mp he]
      exact ⟨rfl, fun b shown => Option.some.inj shown⟩
  | mark | log =>
      rw [List.mem_singleton.mp he]
      exact ⟨rfl, fun b shown => by cases shown⟩
  | update | wait | openGate | meet | meeting | subscribe | keep => cases he

/-- The acts that the activator of a task has not come to. -/
def Task.acts (t : Task) : List Act :=
  match t.scope.phase with
  | .running body => body.acts
  | _ => []

namespace World

/-- How a task settled, if it has. -/
def settled? (w : World) (id : Nat) : Option Settled := (w.tasks[id]?).bind Task.settled?

/-- Whether the activator of a task has kept a handle. -/
def keeps (w : World) (id : Nat) : Bool := w.kept.any fun k => k.2 == id

end World

/-- One step of a run, also through a handle that was kept. -/
def Run.happen? (setup : Setup) (r : Run) : Happening → Option (Run × List Event)
  | .act action => r.step? setup.activators setup.settings setup.env action
  | .late id message =>
    match r.world.tasks[id]? with
    | none => none
    | some task =>
      if r.world.keeps id then
        let (world, events, _) := r.world.update task.scope.entry message
        some ({ r with world }, events)
      else none

/-! ## Tasks -/

/-- What one step of a task does to its scope, what happens in it, and how many numbers of status
items it uses up. -/
inductive Turn (activators : Activators) (w : World) (t : Task) :
    List Event → Nat → Scope Body Result → Prop where
  /-- The step is one around the call of the activator. -/
  | around {calls : List HostCall} {spent : Nat} {scope : Scope Body Result}
      (own : Scope.Advance w.context.host t.scope calls spent scope) :
      Turn activators w t (calls.map .host) spent scope
  /-- The activator is called. -/
  | called {stored : Bool} (at_ : t.scope.phase = .shown)
      (well : (activators t.subsystem t.customPath w.fs).panicsAtOnce = false) :
      Turn activators w t [.called t.subsystem t.customPath stored] 0
        (t.goOn (activators t.subsystem t.customPath w.fs).acts
          (activators t.subsystem t.customPath w.fs).ending)
  /-- The activator breaks down at once. -/
  | uncalled {stored : Bool} (at_ : t.scope.phase = .shown)
      (broken : (activators t.subsystem t.customPath w.fs).panicsAtOnce = true) :
      Turn activators w t [.called t.subsystem t.customPath stored] 0 (t.scope.finish none)
  /-- The activator replaces the status message. -/
  | updated {message : String} {rest : List Act} {ending : Ending}
      (at_ : t.scope.phase = .running ⟨.update message :: rest, ending⟩) :
      Turn activators w t (texting t.scope.entry message) 0 (t.goOn rest ending)
  /-- That breaks down. -/
  | unupdated {message : String} {rest : List Act} {ending : Ending}
      (at_ : t.scope.phase = .running ⟨.update message :: rest, ending⟩) :
      Turn activators w t (texting t.scope.entry message) 0 (t.scope.finish none)
  /-- The activator does something else, which is about no status item. -/
  | acted {a : Act} {acts rest : List Act} {ending : Ending} {events : List Event}
      (at_ : t.scope.phase = .running ⟨a :: rest, ending⟩) (other : ∀ message, a ≠ .update message)
      (unrelated : ∀ e ∈ events, e.item? = none ∧ e.isCall = false)
      (effect : events = a.effect t.subsystem)
      (left : acts = rest ∨ ∃ place, acts = .meeting place :: rest) :
      Turn activators w t events 0 (t.goOn acts ending)
  /-- The activator ends. -/
  | ended {ending : Ending} (at_ : t.scope.phase = .running ⟨[], ending⟩) :
      Turn activators w t [] 0 (t.scope.finish ending.result?)

/-- What a step does to a world: the tasks and the kept handles afterwards, and how many numbers of
status items it uses up. The file system and the storage directory stay. -/
structure Leads (w : World) (tasks : List Task) (kept : List (Subsystem × Nat)) (spent : Nat)
    (w' : World) : Prop where
  /-- The tasks. -/
  tasks : w'.tasks = tasks
  /-- The kept handles. -/
  kept : w'.kept = kept
  /-- The next number. -/
  nextItem : w'.context.host.nextItem = w.context.host.nextItem + spent
  /-- The file system. -/
  fs : w'.fs = w.fs
  /-- The storage directory. -/
  storage : w'.context.storage = w.context.storage

/-- What a step of a task does. -/
inductive TaskStep (activators : Activators) (w : World) (id : Nat) (t : Task) :
    World → List Event → Prop where
  /-- The task makes a step, and its handle may be kept while its activator runs. -/
  | turn {spent : Nat} {scope : Scope Body Result} {kept : List (Subsystem × Nat)} {w' : World}
      {events : List Event} (turn : Turn activators w t events spent scope)
      (keeping : kept = w.kept ∨
        kept = (t.subsystem, id) :: w.kept ∧ ∃ body, t.scope.phase = .running body)
      (leads : Leads w (w.tasks.modify id fun u => { u with scope }) kept spent w') :
      TaskStep activators w id t w' events

/-! ## Activation -/

/-- The call that sets the editing rules. -/
def rulesCall : HostCall := .setLanguage LanguageRules.Kotlin.languageId LanguageRules.Kotlin.rules

/-- The steps of activation. -/
inductive CoordinatorStep (setup : Setup) (w : World) :
    Stage → Stage → World → List Event → Prop where
  /-- The editing rules are set. -/
  | started {w' : World} (leads : Leads w w.tasks w.kept 0 w') :
      CoordinatorStep setup w .starting (.preparing (plan setup.settings setup.env)) w'
        [.host rulesCall]
  /-- The storage directory is there. -/
  | stored {plan : Plan} {outcome : Storage.Outcome} {fs : FileSystem}
      (made : Storage.ensure w.fs w.context.storage = (fs, .ok outcome)) :
      CoordinatorStep setup w (.preparing plan) (.launching plan ⟨outcome, [], []⟩) { w with fs }
        ((Storage.records w.context.storage (.ok outcome)).map .logged)
  /-- The storage directory cannot be made. -/
  | unstored {plan : Plan} {cause : IoError} {fs : FileSystem}
      (failed : Storage.ensure w.fs w.context.storage = (fs, .error cause)) :
      CoordinatorStep setup w (.preparing plan)
        (.returned (.error (.storage w.context.storage cause))) { w with fs } []
  /-- A task is launched. -/
  | launched {s : Subsystem} {customPath : Option FilePath} {rest : Plan} {progress : Progress} :
      CoordinatorStep setup w (.launching ((s, some customPath) :: rest) progress)
        (.launching rest { progress with launches := progress.launches ++ [(s, w.tasks.length)] })
        { w with tasks := w.tasks ++ [.fresh s customPath] } [.logged (launchRecord s customPath)]
  /-- A subsystem is skipped. -/
  | skipped {s : Subsystem} {rest : Plan} {progress : Progress} :
      CoordinatorStep setup w (.launching ((s, none) :: rest) progress)
        (.launching rest { progress with skipped := progress.skipped ++ [s] }) w
        [.logged (skipRecord s)]
  /-- Everything is launched. -/
  | watched {progress : Progress} :
      CoordinatorStep setup w (.launching [] progress) progress.watch w []
  /-- A task has not settled. -/
  | waited {progress : Progress} {launch : Launch} {left : List Launch} {unsettled : Bool}
      (open_ : w.settled? launch.2 = none) :
      CoordinatorStep setup w (.watching progress (launch :: left) unsettled)
        (.watching progress left true) w []
  /-- A task has succeeded. -/
  | passed {progress : Progress} {launch : Launch} {left : List Launch} {unsettled : Bool}
      (well : w.settled? launch.2 = some (.ended .succeeded)) :
      CoordinatorStep setup w (.watching progress (launch :: left) unsettled)
        (.watching progress left unsettled) w []
  /-- A task has settled otherwise. -/
  | failed {progress : Progress} {launch : Launch} {left : List Launch} {unsettled : Bool}
      {settled : Settled} {e : Error} (ill : w.settled? launch.2 = some settled)
      (means : failure? launch.1 settled = some e) :
      CoordinatorStep setup w (.watching progress (launch :: left) unsettled)
        (.returned (.error e)) w []
  /-- Another round begins. -/
  | again {progress : Progress} :
      CoordinatorStep setup w (.watching progress [] true) progress.watch w []
  /-- All tasks have succeeded. -/
  | succeeded {progress : Progress} :
      CoordinatorStep setup w (.watching progress [] false) (.returned (.ok progress.summary)) w []

/-! ## Everything -/

/-- Everything that may happen in the course of an activation. -/
inductive Step (setup : Setup) (r : Run) : Happening → Run → List Event → Prop where
  /-- Activation makes a step. -/
  | coordinator {stage : Stage} {world : World} {events : List Event}
      (own : CoordinatorStep setup r.world r.stage stage world events) :
      Step setup r (.act .coordinator) ⟨stage, world⟩ events
  /-- A task makes a step. -/
  | task {id : Nat} {t : Task} {world : World} {events : List Event}
      (found : r.world.tasks[id]? = some t) (unsettled : t.settled? = none)
      (own : TaskStep setup.activators r.world id t world events) :
      Step setup r (.act (.task id)) { r with world } events
  /-- A gate is opened. -/
  | opened {gate : String} :
      Step setup r (.act (.openGate gate)) { r with world := r.world.openGate gate } []
  /-- A task is cancelled. -/
  | cancelled {id : Nat} {t : Task} {world : World} (found : r.world.tasks[id]? = some t)
      (unsettled : t.settled? = none)
      (leads : Leads r.world
        (r.world.tasks.modify id fun u =>
          { u with scope := ⟨t.scope.entry.released, .closed none⟩, cancelled := true })
        r.world.kept 0 world) :
      Step setup r (.act (.cancel id)) { r with world } (disposing t.scope.entry)
  /-- There is no task to cancel. -/
  | uncancelled {id : Nat} : Step setup r (.act (.cancel id)) r []
  /-- A kept handle is used. -/
  | late {id : Nat} {message : String} {t : Task} {world : World}
      (found : r.world.tasks[id]? = some t) (kept : r.world.keeps id = true)
      (leads : Leads r.world r.world.tasks r.world.kept 0 world) :
      Step setup r (.late id message) { r with world } (texting t.scope.entry message)

/-! ## Tasks that have not settled -/

/-- A task has not settled as long as it is neither cancelled nor over. -/
theorem settled?_eq_none_iff {t : Task} :
    t.settled? = none ↔ t.cancelled = false ∧ t.scope.phase.isClosed = false := by
  unfold Task.settled?
  cases t.cancelled with
  | true => simp
  | false =>
      rcases t.scope.phase with _ | _ | _ | _ | _ | _ | (_ | _) <;> simp [Scope.Phase.isClosed]

/-! ## Every step is in the list -/

namespace World

variable {w w' : World} {id : Nat} {t : Task} {events : List Event}

/-- The world after some calls to the host, with some numbers of items used up. -/
def after (w : World) (calls : List HostCall) (spent : Nat) : World :=
  { w with context := { w.context with host := w.context.host.after calls spent } }

/-- Calls to the host change the host and are seen as events, and that is all. -/
theorem callHost_eq {α : Type} {f : Host → Host × α} {calls : List HostCall} {spent : Nat} {a : α}
    (made : f w.context.host = (w.context.host.after calls spent, a)) :
    w.callHost f = (w.after calls spent, calls.map .host, a) := by
  simp [callHost, made, after, Host.after]

/-- Calls to the host followed by another scope for a task. -/
theorem leads_setScope (w : World) (calls : List HostCall) (spent id : Nat)
    (scope : Scope Body Result) :
    Leads w (w.tasks.modify id fun u => { u with scope }) w.kept spent
      ((w.after calls spent).setScope id scope) :=
  ⟨rfl, rfl, rfl, rfl, rfl⟩

/-- What replacing a message does to the world. -/
theorem update_cases (w : World) (e : StatusEntry) (message : String) :
    ∃ well, w.update e message =
      (w.after (e.item.toList.map (.setText · (e.label message))) 0, texting e message, well) := by
  unfold update
  rcases w.context.host.attemptOn_cases (.setText · (e.label message)) e.item with
    ⟨-, made⟩ | ⟨i, own, -, made⟩
  · exact ⟨true, by rw [callHost_eq (by rw [StatusEntry.update_eq, made])]; simp [texting]⟩
  · exact ⟨false, by rw [callHost_eq (by rw [StatusEntry.update_eq, made])]; simp [texting, own]⟩

/-- What an activator does is in the list. -/
theorem act?_sound {activators : Activators} {a : Act} {rest : List Act} {ending : Ending}
    (at_ : t.scope.phase = .running ⟨a :: rest, ending⟩)
    (h : w.act? id t a rest ending = some (w', events)) : TaskStep activators w id t w' events := by
  -- but for a message, an act changes no status item: its step is of one form
  have other {acts : List Act} {events : List Event} {w' : World}
      (different : ∀ message, a ≠ .update message) (effect : events = a.effect t.subsystem)
      (left : acts = rest ∨ ∃ place, acts = .meeting place :: rest)
      (leads : Leads w (w.tasks.modify id fun u => { u with scope := t.goOn acts ending }) w.kept 0
        w') : TaskStep activators w id t w' events :=
    .turn (.acted at_ different (effect ▸ a.unrelated_of_mem_effect) effect left) (.inl rfl) leads
  cases a with
  | update message =>
      obtain ⟨well, made⟩ := w.update_cases t.scope.entry message
      cases well with
      | true =>
          simp only [act?, made, Option.some.injEq, Prod.mk.injEq] at h
          obtain ⟨rfl, rfl⟩ := h
          exact .turn (.updated at_) (.inl rfl) (leads_setScope ..)
      | false =>
          simp only [act?, made, Option.some.injEq, Prod.mk.injEq] at h
          obtain ⟨rfl, rfl⟩ := h
          exact .turn (.unupdated at_) (.inl rfl) (leads_setScope ..)
  | mark | start | log =>
      cases h
      exact other (by simp) rfl (.inl rfl) ⟨rfl, rfl, rfl, rfl, rfl⟩
  | openGate | subscribe =>
      cases h
      exact other (by simp) rfl (.inl rfl) ⟨rfl, rfl, rfl, rfl, rfl⟩
  | meet =>
      cases h
      exact other (by simp) rfl (.inr ⟨_, rfl⟩) ⟨rfl, rfl, rfl, rfl, rfl⟩
  | register registration =>
      cases h
      exact other (by simp) (by simp [Host.tell, Act.effect]) (.inl rfl)
        ⟨rfl, rfl, rfl, rfl, rfl⟩
  | wait | meeting =>
      simp only [act?] at h
      split at h
      · cases h
        exact other (by simp) rfl (.inl rfl) ⟨rfl, rfl, rfl, rfl, rfl⟩
      · cases h
  | keep =>
      cases h
      exact .turn (.acted at_ (by simp) (by simp) rfl (.inl rfl)) (.inr ⟨rfl, _, at_⟩)
        ⟨rfl, rfl, rfl, rfl, rfl⟩

/-- The call of an activator is in the list. -/
theorem callActivator_sound {activators : Activators} (at_ : t.scope.phase = .shown) :
    TaskStep activators w id t (w.callActivator activators id t).1
      (w.callActivator activators id t).2 := by
  simp only [callActivator]
  cases broken : (activators t.subsystem t.customPath w.fs).panicsAtOnce with
  | true => exact .turn (.uncalled at_ broken) (.inl rfl) ⟨rfl, rfl, rfl, rfl, rfl⟩
  | false => exact .turn (.called at_ broken) (.inl rfl) ⟨rfl, rfl, rfl, rfl, rfl⟩

/-- The steps around the call of an activator are in the list. -/
theorem advance_sound {activators : Activators} (around : t.scope.phase.isAround = true) :
    TaskStep activators w id t
      ((w.callHost fun host => t.scope.advance host).1.setScope id
        (w.callHost fun host => t.scope.advance host).2.2)
      (w.callHost fun host => t.scope.advance host).2.1 := by
  obtain ⟨calls, spent, scope, advances, own⟩ := t.scope.advance_sound w.context.host around
  rw [callHost_eq advances]
  exact .turn (.around own) (.inl rfl) (leads_setScope ..)

/-- Every step of a task is in the list. -/
theorem stepTask?_sound {activators : Activators}
    (h : w.stepTask? activators id = some (w', events)) :
    ∃ t, w.tasks[id]? = some t ∧ t.settled? = none ∧ TaskStep activators w id t w' events := by
  unfold stepTask? at h
  cases found : w.tasks[id]? with
  | none =>
      rw [found] at h
      cases h
  | some t =>
      simp only [found] at h
      cases spared : t.cancelled with
      | true =>
          rw [spared, if_pos rfl] at h
          cases h
      | false =>
          rw [spared, if_neg Bool.false_ne_true] at h
          refine ⟨t, rfl, ?_⟩
          cases at_ : t.scope.phase with
          | closed result =>
              rw [at_] at h
              cases h
          | shown =>
              rw [at_] at h
              cases h
              exact ⟨settled?_eq_none_iff.mpr ⟨spared, by rw [at_]; rfl⟩, callActivator_sound at_⟩
          | running body =>
              refine ⟨settled?_eq_none_iff.mpr ⟨spared, by rw [at_]; rfl⟩, ?_⟩
              rcases body with ⟨_ | ⟨a, rest⟩, ending⟩
              · rw [at_] at h
                cases h
                exact .turn (.ended at_) (.inl rfl) ⟨rfl, rfl, rfl, rfl, rfl⟩
              · rw [at_] at h
                exact act?_sound at_ h
          | fresh | created | labelled | closing =>
              rw [at_] at h
              cases h
              exact ⟨settled?_eq_none_iff.mpr ⟨spared, by rw [at_]; rfl⟩,
                advance_sound (by rw [at_]; rfl)⟩

/-- Cancelling a task that has not settled disposes of its item. -/
theorem cancel_of_unsettled (found : w.tasks[id]? = some t) (unsettled : t.settled? = none) :
    (w.cancel id).2 = disposing t.scope.entry ∧
      Leads w
        (w.tasks.modify id fun u =>
          { u with scope := ⟨t.scope.entry.released, .closed none⟩, cancelled := true })
        w.kept 0 (w.cancel id).1 := by
  unfold cancel
  rw [found]
  simp only [unsettled, Option.isSome_none, Bool.false_eq_true, if_false]
  rcases w.context.host.attemptOn_cases .disposeItem t.scope.entry.item with
    ⟨-, made⟩ | ⟨i, own, -, made⟩
  · rw [callHost_eq (by rw [StatusEntry.dispose_eq, made])]
    exact ⟨by simp [disposing], rfl, rfl, rfl, rfl, rfl⟩
  · rw [callHost_eq (by rw [StatusEntry.dispose_eq, made])]
    exact ⟨by simp [disposing, own], rfl, rfl, rfl, rfl, rfl⟩

/-- Where no task can be cancelled, nothing happens. -/
theorem cancel_of_settled (settled : ∀ t, w.tasks[id]? = some t → t.settled? ≠ none) :
    w.cancel id = (w, []) := by
  unfold cancel
  cases found : w.tasks[id]? with
  | none => rfl
  | some t =>
      have finished := settled t found
      rw [← Option.isSome_iff_ne_none] at finished
      simp only [finished, if_true]

end World

variable {setup : Setup}

/-- Only success is no failure. -/
theorem failure?_eq_none_iff {s : Subsystem} {settled : Settled} :
    failure? s settled = none ↔ settled = .ended .succeeded := by
  rcases settled with (_ | _) | _ | _ <;> simp [failure?]

/-- Every step of activation is in the list. -/
theorem stepStage?_sound {w w' : World} {stage stage' : Stage} {events : List Event}
    (h : stepStage? setup.settings setup.env w stage = some (stage', w', events)) :
    CoordinatorStep setup w stage stage' w' events := by
  cases stage with
  | starting =>
      have made : (w.callHost fun host => (host.tell rulesCall, ())) =
          (w.after [rulesCall] 0, [.host rulesCall], ()) := World.callHost_eq rfl
      change some (_, (w.callHost fun host => (host.tell rulesCall, ())).1,
        (w.callHost fun host => (host.tell rulesCall, ())).2.1) = _ at h
      rw [made] at h
      cases h
      exact .started ⟨rfl, rfl, rfl, rfl, rfl⟩
  | preparing plan =>
      simp only [stepStage?] at h
      rcases made : Storage.ensure w.fs w.context.storage with ⟨fs, cause | outcome⟩
      · simp only [made] at h
        cases h
        exact .unstored made
      · simp only [made] at h
        cases h
        exact .stored made
  | launching plan progress =>
      rcases plan with _ | ⟨⟨s, _ | customPath⟩, rest⟩
      · cases h
        exact .watched
      · cases h
        exact .skipped
      · cases h
        exact .launched
  | watching progress left unsettled =>
      rcases left with _ | ⟨launch, left⟩
      · cases unsettled with
        | true =>
            cases h
            exact .again
        | false =>
            cases h
            exact .succeeded
      -- a task that has settled is passed, or ends the waiting with its failure
      · simp only [stepStage?, Progress.look] at h
        rcases seen : (w.tasks[launch.2]?).bind Task.settled? with _ | settled
        · simp only [seen] at h
          cases h
          exact .waited seen
        · rcases means : failure? launch.1 settled with _ | e
          · simp only [seen, means] at h
            cases h
            exact .passed (seen.trans (congrArg some (failure?_eq_none_iff.mp means)))
          · simp only [seen, means] at h
            cases h
            exact .failed seen means
  | returned result => cases h

/-- **Every step of a run is one that `Step` lists.** -/
theorem step_sound {r r' : Run} {h : Happening} {events : List Event}
    (made : r.happen? setup h = some (r', events)) : Step setup r h r' events := by
  cases h with
  | late id message =>
      simp only [Run.happen?] at made
      cases found : r.world.tasks[id]? with
      | none =>
          rw [found] at made
          cases made
      | some t =>
          simp only [found] at made
          split at made
          · rename_i kept
            obtain ⟨well, updates⟩ := r.world.update_cases t.scope.entry message
            rw [updates] at made
            cases made
            exact .late found kept ⟨rfl, rfl, rfl, rfl, rfl⟩
          · cases made
  | act action =>
      simp only [Run.happen?] at made
      cases action with
      | coordinator =>
          rcases own : stepStage? setup.settings setup.env r.world r.stage with _ | ⟨stage, w, e⟩
          · simp [Run.step?, own] at made
          · simp only [Run.step?, own] at made
            cases made
            exact .coordinator (stepStage?_sound own)
      | task id =>
          rcases own : r.world.stepTask? setup.activators id with _ | ⟨w, e⟩
          · simp [Run.step?, own] at made
          · simp only [Run.step?, own] at made
            cases made
            obtain ⟨t, found, unsettled, own⟩ := World.stepTask?_sound own
            exact .task found unsettled own
      | openGate gate =>
          cases made
          exact .opened
      | cancel id =>
          simp only [Run.step?] at made
          -- a task that has settled is spared
          by_cases open_ : ∃ t, r.world.tasks[id]? = some t ∧ t.settled? = none
          · obtain ⟨t, found, unsettled⟩ := open_
            obtain ⟨events, leads⟩ := World.cancel_of_unsettled found unsettled
            cases made
            rw [events]
            exact .cancelled found unsettled leads
          · rw [World.cancel_of_settled fun t found finished => open_ ⟨t, found, finished⟩] at made
            cases made
            exact .uncancelled

/-- The moves of a run. -/
abbrev Moves := List (Move Run Happening Event)

/-- The histories of a run that starts in a state. -/
abbrev Run.History (setup : Setup) (start : Run) : Moves → Run → Prop :=
  ToolingHost.History (Run.happen? setup) start

/-! ## What a step keeps -/

/-- What every step but those of activation keeps. -/
structure Keeps (r r' : Run) : Prop where
  /-- Activation stands where it stood. -/
  stage : r'.stage = r.stage
  /-- The tasks are the same, and launched for the same. -/
  purposes : r'.world.tasks.map Task.purpose = r.world.tasks.map Task.purpose
  /-- A task that has settled stays as it is. -/
  settled : ∀ id settled, r.world.settled? id = some settled → r'.world.settled? id = some settled
  /-- The file system stays. -/
  fs : r'.world.fs = r.world.fs

/-- Another task at the place of one that has not settled changes no settled one. -/
theorem World.settled?_of_modify {w w' : World} {id j : Nat} {t : Task} {f : Task → Task}
    {settled : Settled} (tasks : w'.tasks = w.tasks.modify id f) (found : w.tasks[id]? = some t)
    (unsettled : t.settled? = none) (before : w.settled? j = some settled) :
    w'.settled? j = some settled := by
  unfold World.settled? at before ⊢
  rw [tasks, List.getElem?_modify]
  split
  · rename_i same
    rw [← same, found, Option.bind_some, unsettled] at before
    cases before
  · simpa using before

/-- Another scope for a task changes nothing of what the tasks were launched for. -/
theorem map_purpose_modify {tasks : List Task} {id : Nat} {f : Task → Task}
    (same : ∀ t, (f t).purpose = t.purpose) :
    (tasks.modify id f).map Task.purpose = tasks.map Task.purpose := by
  refine List.ext_getElem? fun j => ?_
  rw [List.getElem?_map, List.getElem?_map, List.getElem?_modify]
  cases tasks[j]? with
  | none => rfl
  | some t =>
      by_cases here : id = j <;> simp [here, same]

/-- A step that is not one of activation keeps what `Keeps` lists. -/
theorem Step.keeps {r r' : Run} {h : Happening} {events : List Event}
    (made : Step setup r h r' events) (other : h ≠ .act .coordinator) : Keeps r r' := by
  cases made with
  | coordinator own => exact absurd rfl other
  | task found unsettled own =>
      obtain ⟨-, -, leads⟩ := own
      exact ⟨rfl, leads.tasks ▸ map_purpose_modify fun _ => rfl,
        fun _ _ => World.settled?_of_modify leads.tasks found unsettled, leads.fs⟩
  | opened | uncancelled => exact ⟨rfl, rfl, fun _ _ before => before, rfl⟩
  | cancelled found unsettled leads =>
      exact ⟨rfl, leads.tasks ▸ map_purpose_modify fun _ => rfl,
        fun _ _ => World.settled?_of_modify leads.tasks found unsettled, leads.fs⟩
  | late found kept leads =>
      exact ⟨rfl, by rw [leads.tasks], fun id _ before => by
        rwa [World.settled?, leads.tasks], leads.fs⟩

/-! ## What a step means for one task -/

/-- What a step means for the task with a number: what the task is after it. -/
inductive Change (setup : Setup) (w : World) (id : Nat) : Happening → List Event → Task → Prop where
  /-- The task is launched. -/
  | launched {s : Subsystem} {customPath : Option FilePath} {events : List Event}
      (new : id = w.tasks.length) :
      Change setup w id (.act .coordinator) events (.fresh s customPath)
  /-- The step is not about the task. -/
  | same {t : Task} {h : Happening} {events : List Event} (found : w.tasks[id]? = some t)
      (elsewhere : h.subject? ≠ some id) : Change setup w id h events t
  /-- The task makes a step. -/
  | turned {t : Task} {spent : Nat} {scope : Scope Body Result} {events : List Event}
      (found : w.tasks[id]? = some t) (unsettled : t.settled? = none)
      (turn : Turn setup.activators w t events spent scope) :
      Change setup w id (.act (.task id)) events { t with scope }
  /-- The task is cancelled. -/
  | cancelled {t : Task} (found : w.tasks[id]? = some t) (unsettled : t.settled? = none) :
      Change setup w id (.act (.cancel id)) (disposing t.scope.entry)
        { t with scope := ⟨t.scope.entry.released, .closed none⟩, cancelled := true }
  /-- The task has settled before it could be cancelled. -/
  | spared {t : Task} (found : w.tasks[id]? = some t) :
      Change setup w id (.act (.cancel id)) [] t
  /-- The kept handle of the task is used. -/
  | late {t : Task} {message : String} (found : w.tasks[id]? = some t)
      (kept : w.keeps id = true) :
      Change setup w id (.late id message) (texting t.scope.entry message) t

/-- The tasks of a world in which one task is another. -/
theorem getElem?_modify_cases {tasks : List Task} {id j : Nat} {f : Task → Task} {t' : Task}
    (after : (tasks.modify j f)[id]? = some t') :
    (j ≠ id ∧ tasks[id]? = some t') ∨ (j = id ∧ ∃ t, tasks[id]? = some t ∧ f t = t') := by
  rw [List.getElem?_modify] at after
  by_cases here : j = id
  · exact .inr ⟨here, by simpa [here] using after⟩
  · exact .inl ⟨here, by simpa [here] using after⟩

/-- Every step means something for every task that is there after it. -/
theorem Step.change {r r' : Run} {h : Happening} {events : List Event} {id : Nat} {t' : Task}
    (made : Step setup r h r' events) (after : r'.world.tasks[id]? = some t') :
    Change setup r.world id h events t' := by
  obtain ⟨stage, w⟩ := r
  cases made with
  | coordinator own =>
      cases own with
      | started leads => exact .same (leads.tasks ▸ after) fun own => by cases own
      | launched =>
          -- a task that was there before is as it was; the last one is new
          rw [List.getElem?_append] at after
          split at after
          · exact .same after fun own => by cases own
          · rename_i beyond
            rw [List.getElem?_singleton] at after
            split at after
            · rename_i first
              cases after
              exact .launched (by omega)
            · cases after
      | stored | unstored | skipped | watched | waited | passed | failed | again | succeeded =>
          exact .same after fun own => by cases own
  | @task j t _ _ found unsettled own =>
      obtain ⟨turn, -, leads⟩ := own
      rw [leads.tasks] at after
      rcases getElem?_modify_cases after with ⟨other, before⟩ | ⟨rfl, u, before, rfl⟩
      · exact .same before (by simpa [Happening.subject?] using other)
      · rw [found] at before
        cases before
        exact .turned found unsettled turn
  | opened => exact .same after fun own => by cases own
  | @cancelled j t _ found unsettled leads =>
      rw [leads.tasks] at after
      rcases getElem?_modify_cases after with ⟨other, before⟩ | ⟨rfl, u, before, rfl⟩
      · exact .same before (by simpa [Happening.subject?] using other)
      · rw [found] at before
        cases before
        exact .cancelled found unsettled
  | @uncancelled j =>
      by_cases here : j = id
      · rw [here]
        exact .spared after
      · exact .same after (by simpa [Happening.subject?] using here)
  | @late j message t _ found kept leads =>
      rw [leads.tasks] at after
      by_cases here : j = id
      · subst here
        rw [found] at after
        cases after
        exact .late found kept
      · exact .same after (by simpa [Happening.subject?] using here)

/-! ## Where events come from -/

/-- Where an event of a step comes from. -/
inductive Origin (r : Run) (h : Happening) (e : Event) : Prop where
  /-- Activation sets the editing rules, in its first step. -/
  | rules (own : h = .act .coordinator) (at_ : r.stage = .starting) (is : e = .host rulesCall)
  /-- Activation writes into the log. -/
  | record (own : h = .act .coordinator) {record : Log.Record} (is : e = .logged record)
  /-- Something happens to the status item of a task. -/
  | item {id item : Nat} {t : Task} (subject : h.subject? = some id)
      (found : r.world.tasks[id]? = some t) (is : e.item? = some item)
  /-- A task calls its activator. -/
  | call {id : Nat} {t : Task} {stored : Bool} (own : h = .act (.task id))
      (found : r.world.tasks[id]? = some t) (is : e = .called t.subsystem t.customPath stored)
  /-- The activator of a task does something else. -/
  | effect {id : Nat} {t : Task} {a : Act} (own : h = .act (.task id))
      (found : r.world.tasks[id]? = some t) (next : a ∈ t.acts) (is : e ∈ a.effect t.subsystem)

/-- Every call of a step around the call of an activator is about a status item. -/
theorem exists_item?_of_advance {host : Host} {s s' : Scope Body Result} {calls : List HostCall}
    {spent : Nat} {e : Event} (own : Scope.Advance host s calls spent s')
    (he : e ∈ calls.map .host) : ∃ item, e.item? = some item := by
  cases own with
  | created | unlabelled | unshown | undisposed =>
      rw [List.map_singleton, List.mem_singleton] at he
      subst he
      exact ⟨_, rfl⟩
  | uncreated => cases he
  | labelled | shown | disposed =>
      rw [List.map_map] at he
      obtain ⟨item, -, rfl⟩ := List.mem_map.mp he
      exact ⟨item, rfl⟩

/-- Every event of a step of a task comes from that task. -/
theorem Turn.origin {activators : Activators} {r : Run} {id : Nat} {t : Task} {e : Event}
    {events : List Event} {spent : Nat} {scope : Scope Body Result}
    (turn : Turn activators r.world t events spent scope) (found : r.world.tasks[id]? = some t)
    (he : e ∈ events) : Origin r (.act (.task id)) e := by
  cases turn with
  | around own =>
      obtain ⟨item, is⟩ := exists_item?_of_advance own he
      exact .item rfl found is
  | called | uncalled => exact .call rfl found (List.mem_singleton.mp he)
  | updated | unupdated =>
      obtain ⟨item, -, rfl⟩ := List.mem_map.mp he
      exact .item rfl found rfl
  | acted at_ _ _ effect =>
      refine .effect rfl found ?_ (effect ▸ he)
      rw [Task.acts, at_]
      exact List.mem_cons_self
  | ended => cases he

/-- **Every event of a step has its origin.** -/
theorem Step.origin {r r' : Run} {h : Happening} {events : List Event} {e : Event}
    (made : Step setup r h r' events) (he : e ∈ events) : Origin r h e := by
  cases made with
  | coordinator own =>
      obtain ⟨stage, world⟩ := r
      cases own with
      | started => exact .rules rfl rfl (List.mem_singleton.mp he)
      | launched | skipped => exact .record rfl (List.mem_singleton.mp he)
      | stored =>
          obtain ⟨record, -, rfl⟩ := List.mem_map.mp he
          exact .record rfl rfl
      | unstored | watched | waited | passed | failed | again | succeeded => cases he
  | task found _ own =>
      obtain ⟨turn, -, -⟩ := own
      exact turn.origin found he
  | opened | uncancelled => cases he
  | cancelled found | late found =>
      obtain ⟨item, -, rfl⟩ := List.mem_map.mp he
      exact .item rfl found rfl

end ToolingHost.Activation
