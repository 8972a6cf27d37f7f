import ToolingHost.Proofs.Activation.Step

/-! # What activation returns

Activation launches what the settings enable, all of it before it looks at any task, and returns
what the tasks that it has launched have come to. `Standing` says for every stage what has been
launched and seen until then; it holds at the start, and every step keeps it (`Standing.step`). -/

namespace ToolingHost.Activation

/-- The subsystems that settings enable, in launch order. -/
def enabled (settings : Config.Settings) : List Subsystem :=
  Subsystem.all.filter fun s => (settings.subsystem s).enabled

/-- The subsystems that settings disable, in launch order. -/
def disabled (settings : Config.Settings) : List Subsystem :=
  Subsystem.all.filter fun s => !(settings.subsystem s).enabled

namespace Plan

/-- What a plan launches, in order. -/
def chosen (p : Plan) : List (Subsystem × Option FilePath) :=
  p.filterMap fun (s, path?) => path?.map (s, ·)

/-- What a plan skips, in order. -/
def omitted (p : Plan) : List Subsystem :=
  p.filterMap fun (s, path?) => if path?.isNone then some s else none

end Plan

variable {settings : Config.Settings} {env : Environment}

/-- What the plan of settings launches is what they enable. -/
theorem map_fst_chosen_plan : (plan settings env).chosen.map Prod.fst = enabled settings := by
  cases hs : (settings.subsystem .languageServer).enabled <;>
    cases hd : (settings.subsystem .debugAdapter).enabled <;>
    simp [plan, Plan.chosen, enabled, Subsystem.all, hs, hd]

/-- What the plan of settings skips is what they disable. -/
theorem omitted_plan : (plan settings env).omitted = disabled settings := by
  cases hs : (settings.subsystem .languageServer).enabled <;>
    cases hd : (settings.subsystem .debugAdapter).enabled <;>
    simp [plan, Plan.omitted, disabled, Subsystem.all, hs, hd]

/-- Every subsystem is either enabled or disabled. -/
theorem enabled_append_disabled_perm (settings : Config.Settings) :
    (enabled settings ++ disabled settings).Perm Subsystem.all :=
  List.filter_append_perm _ _

/-! ## What has been launched -/

/-- The record at the level of the normal course of events that an event writes. -/
def Event.notice? : Event → Option Log.Record
  | .logged record => if record.level = .info then some record else none
  | _ => none

/-- What a step of activation itself writes into the log at the level of the normal course of
events. -/
def noticesBy (move : Move Run Happening Event) : List Log.Record :=
  if move.action = .act .coordinator then move.events.filterMap Event.notice? else []

/-- What activation itself writes into the log at that level, in order. -/
def notices (moves : Moves) : List Log.Record := moves.flatMap noticesBy

/-- Notices come in the order of the moves. -/
@[simp] theorem notices_append (first second : Moves) :
    notices (first ++ second) = notices first ++ notices second := by
  simp [notices]

/-- The notices of one move. -/
@[simp] theorem notices_singleton (move : Move Run Happening Event) :
    notices [move] = noticesBy move := by
  simp [notices]

/-- How a part of a plan has been carried out in a world whose tasks were launched for `old` before
that: every chosen subsystem has a task, every omitted one has been skipped with a notice. -/
structure Launched (old : List (Subsystem × Option FilePath)) (done : Plan) (progress : Progress)
    (noted : List Log.Record) (w : World) : Prop where
  /-- The tasks. -/
  tasks : w.tasks.map Task.purpose = old ++ done.chosen
  /-- The launches are known by the places of their tasks. -/
  launches : progress.launches = (done.chosen.map Prod.fst).zipIdx old.length
  /-- The others are skipped. -/
  skipped : progress.skipped = done.omitted
  /-- There is one notice for each of them. -/
  noted : noted = progress.skipped.map skipRecord

namespace Launched

variable {old : List (Subsystem × Option FilePath)} {done : Plan} {progress : Progress}
  {noted : List Log.Record} {w w' : World}

/-- The next task gets the next place. -/
theorem length_tasks (h : Launched old done progress noted w) :
    w.tasks.length = old.length + done.chosen.length := by
  rw [← List.length_map (f := Task.purpose), h.tasks, List.length_append]

/-- Nothing has been launched at first. -/
theorem initial (outcome : Storage.Outcome) (tasks : w.tasks.map Task.purpose = old) :
    Launched old [] ⟨outcome, [], []⟩ [] w :=
  ⟨by simp [tasks, Plan.chosen], by simp [Plan.chosen], by simp [Plan.omitted], rfl⟩

/-- One more task is launched. -/
theorem launch (h : Launched old done progress noted w) (s : Subsystem)
    (customPath : Option FilePath) :
    Launched old (done ++ [(s, some customPath)])
      { progress with launches := progress.launches ++ [(s, w.tasks.length)] } noted
      { w with tasks := w.tasks ++ [.fresh s customPath] } where
  tasks := by simp [h.tasks, Plan.chosen, Task.purpose, Task.fresh]
  launches := by simp [h.launches, h.length_tasks, Plan.chosen, List.zipIdx_append]
  skipped := by simp [h.skipped, Plan.omitted]
  noted := h.noted

/-- One more subsystem is skipped. -/
theorem skip (h : Launched old done progress noted w) (s : Subsystem) :
    Launched old (done ++ [(s, none)]) { progress with skipped := progress.skipped ++ [s] }
      (noted ++ [skipRecord s]) w where
  tasks := by simp [h.tasks, Plan.chosen]
  launches := by simp [h.launches, Plan.chosen]
  skipped := by simp [h.skipped, Plan.omitted]
  noted := by simp [h.noted]

/-- That launches are under way depends only on what the tasks were launched for. -/
theorem congr (h : Launched old done progress noted w)
    (same : w'.tasks.map Task.purpose = w.tasks.map Task.purpose) :
    Launched old done progress noted w' :=
  ⟨same.trans h.tasks, h.launches, h.skipped, h.noted⟩

/-- The new tasks are those of the chosen subsystems. -/
theorem map_purpose_drop (h : Launched old done progress noted w) :
    (w.tasks.drop old.length).map Task.purpose = done.chosen := by
  rw [List.map_drop, h.tasks, List.drop_left]

/-- A launch is one of the new tasks with its place. -/
theorem mem_launches_iff (h : Launched old done progress noted w) {s : Subsystem} {id : Nat} :
    (s, id) ∈ progress.launches ↔
      old.length ≤ id ∧ ∃ t, w.tasks[id]? = some t ∧ t.subsystem = s := by
  rw [h.launches, List.mk_mem_zipIdx_iff_le_and_getElem?_sub, ← h.map_purpose_drop, List.map_map,
    List.getElem?_map]
  refine and_congr_right fun new => ?_
  rw [List.getElem?_drop, Nat.add_sub_cancel' new, Option.map_eq_some_iff]
  rfl

/-- Every new task has a launch. -/
theorem mem_launches (h : Launched old done progress noted w) {t : Task}
    (ht : t ∈ w.tasks.drop old.length) :
    ∃ id, w.tasks[id]? = some t ∧ (t.subsystem, id) ∈ progress.launches := by
  obtain ⟨k, at_⟩ := List.mem_iff_getElem?.mp ht
  rw [List.getElem?_drop] at at_
  exact ⟨_, at_, h.mem_launches_iff.mpr ⟨Nat.le_add_right .., t, at_, rfl⟩⟩

/-- Every launch has a new task. -/
theorem exists_task (h : Launched old done progress noted w) {launch : Launch}
    (hl : launch ∈ progress.launches) :
    ∃ t ∈ w.tasks.drop old.length, w.tasks[launch.2]? = some t ∧ t.subsystem = launch.1 := by
  obtain ⟨new, t, at_, own⟩ := h.mem_launches_iff.mp hl
  refine ⟨t, List.mem_iff_getElem?.mpr ⟨launch.2 - old.length, ?_⟩, at_, own⟩
  rw [List.getElem?_drop, Nat.add_sub_cancel' new, at_]

end Launched

/-! ## What has been seen -/

/-- What has been launched and seen in every stage of a run. -/
inductive Standing (setup : Setup) (old : List (Subsystem × Option FilePath))
    (noted : List Log.Record) (r : Run) : Prop where
  /-- Nothing has been done. -/
  | starting (at_ : r.stage = .starting) (tasks : r.world.tasks.map Task.purpose = old)
      (silent : noted = [])
  /-- The plan has been made. -/
  | preparing (at_ : r.stage = .preparing (plan setup.settings setup.env))
      (tasks : r.world.tasks.map Task.purpose = old) (silent : noted = [])
  /-- A part of the plan has been carried out. -/
  | launching {done rest : Plan} {progress : Progress} (at_ : r.stage = .launching rest progress)
      (parts : plan setup.settings setup.env = done ++ rest)
      (launched : Launched old done progress noted r.world)
  /-- The plan has been carried out; if all tasks that were looked at in this round had settled,
  they had succeeded. -/
  | watching {progress : Progress} {seen left : List Launch} {unsettled : Bool}
      (at_ : r.stage = .watching progress left unsettled)
      (launched : Launched old (plan setup.settings setup.env) progress noted r.world)
      (parts : progress.launches = seen ++ left)
      (well : unsettled = false →
        ∀ launch ∈ seen, r.world.settled? launch.2 = some (.ended .succeeded))
  /-- The storage directory could not be made. -/
  | unstored {path : FilePath} {cause : IoError}
      (at_ : r.stage = .returned (.error (.storage path cause)))
  /-- A task has settled otherwise. -/
  | failed {progress : Progress} {launch : Launch} {settled : Settled} {e : Error}
      (at_ : r.stage = .returned (.error e))
      (launched : Launched old (plan setup.settings setup.env) progress noted r.world)
      (member : launch ∈ progress.launches) (ill : r.world.settled? launch.2 = some settled)
      (means : failure? launch.1 settled = some e)
  /-- All tasks have succeeded. -/
  | succeeded {progress : Progress} (at_ : r.stage = .returned (.ok progress.summary))
      (launched : Launched old (plan setup.settings setup.env) progress noted r.world)
      (well : ∀ launch ∈ progress.launches, r.world.settled? launch.2 = some (.ended .succeeded))

namespace Standing

variable {setup : Setup} {old : List (Subsystem × Option FilePath)} {noted : List Log.Record}
  {r r' : Run} {h : Happening} {events : List Event}

/-- Steps that are not those of activation leave the launches and results as they stand. -/
theorem keeps (st : Standing setup old noted r) (kept : Keeps r r') :
    Standing setup old noted r' := by
  cases st with
  | starting at_ tasks silent =>
      exact .starting (kept.stage.trans at_) (kept.purposes.trans tasks) silent
  | preparing at_ tasks silent =>
      exact .preparing (kept.stage.trans at_) (kept.purposes.trans tasks) silent
  | launching at_ parts launched =>
      exact .launching (kept.stage.trans at_) parts (launched.congr kept.purposes)
  | watching at_ launched parts well =>
      exact .watching (kept.stage.trans at_) (launched.congr kept.purposes) parts
        fun all launch hl => kept.settled _ _ (well all launch hl)
  | unstored at_ => exact .unstored (kept.stage.trans at_)
  | failed at_ launched member ill means =>
      exact .failed (kept.stage.trans at_) (launched.congr kept.purposes) member
        (kept.settled _ _ ill) means
  | succeeded at_ launched well =>
      exact .succeeded (kept.stage.trans at_) (launched.congr kept.purposes)
        fun launch hl => kept.settled _ _ (well launch hl)

/-- The storage directory is made without notice. -/
theorem notice?_records (path : FilePath) (outcome : Storage.Outcome) :
    ((Storage.records path (.ok outcome)).map Event.logged).filterMap Event.notice? = [] := by
  cases outcome <;> rfl

/-- The launches and results stand as the stage says after a step of activation. -/
theorem coordinatorStep {stage : Stage} {w : World} (st : Standing setup old noted r)
    (own : CoordinatorStep setup r.world r.stage stage w events) :
    Standing setup old (noted ++ events.filterMap Event.notice?) ⟨stage, w⟩ := by
  obtain ⟨before, world⟩ := r
  cases st with
  | starting at_ tasks silent =>
      cases at_
      cases own with
      | started leads =>
          exact .preparing rfl (by rw [leads.tasks]; exact tasks) (by rw [silent]; rfl)
  | preparing at_ tasks silent =>
      cases at_
      cases own with
      | stored made =>
          rw [silent, notice?_records]
          exact .launching rfl (List.nil_append _).symm (.initial _ tasks)
      | unstored failed => exact .unstored rfl
  | launching at_ parts launched =>
      cases at_
      cases own with
      | @launched s customPath =>
          rw [List.append_cons] at parts
          have silent : [Event.logged (launchRecord s customPath)].filterMap Event.notice? = [] :=
            rfl
          rw [silent, List.append_nil]
          exact .launching rfl parts (launched.launch s customPath)
      | @skipped s =>
          rw [List.append_cons] at parts
          exact .launching rfl parts (launched.skip s)
      | watched =>
          rw [List.append_nil] at parts
          have silent : noted ++ ([] : List Event).filterMap Event.notice? = noted :=
            List.append_nil _
          rw [silent]
          exact .watching rfl (parts ▸ launched) (List.nil_append _).symm (by simp)
  | watching at_ launched parts well =>
      cases at_
      -- looking at a task changes nothing and makes no notice
      have silent : noted ++ ([] : List Event).filterMap Event.notice? = noted := List.append_nil _
      cases own with
      | waited open_ =>
          rw [silent]
          exact .watching rfl launched (by rw [parts, List.append_cons]) fun all => by cases all
      | passed now =>
          rw [silent]
          refine .watching rfl launched (by rw [parts, List.append_cons]) fun all launch hl => ?_
          rcases List.mem_append.mp hl with hl | hl
          · exact well all launch hl
          · rw [List.mem_singleton.mp hl]
            exact now
      | failed ill means =>
          rw [silent]
          exact .failed rfl launched (by rw [parts]; simp) ill means
      | again =>
          rw [silent]
          exact .watching rfl launched (List.nil_append _).symm (by simp)
      | succeeded =>
          rw [silent]
          rw [List.append_nil] at parts
          exact .succeeded rfl launched (parts ▸ well rfl)
  | unstored at_ | failed at_ | succeeded at_ =>
      cases at_
      cases own

/-- The launches and results stand as the stage says after every step. -/
theorem step (st : Standing setup old noted r) (made : Step setup r h r' events) :
    Standing setup old (noted ++ noticesBy ⟨r, h, r', events⟩) r' := by
  by_cases own : h = .act .coordinator
  · subst own
    cases made with
    | coordinator own => exact st.coordinatorStep own
  · have silent : noticesBy ⟨r, h, r', events⟩ = [] := if_neg own
    rw [silent, List.append_nil]
    exact st.keeps (made.keeps own)

/-- At the end of every history of a run, its launches and results stand as the stage says. -/
theorem of_history {w : World} {moves : Moves}
    (h : Run.History setup ⟨.starting, w⟩ moves r) :
    Standing setup (w.tasks.map Task.purpose) (notices moves) r := by
  induction h with
  | nil => exact .starting rfl rfl rfl
  | concat _ made ih =>
      rw [notices_append, notices_singleton]
      exact ih.step (step_sound made)

end Standing

/-! ## What the tasks are told -/

/-- A task stands where its activator, called with a file system, may lead it. -/
def Task.Follows (activators : Activators) (fs : FileSystem) (t : Task) : Prop :=
  match t.scope.phase with
  | .running body => body.ending = (activators t.subsystem t.customPath fs).ending
  | .closing (some result) | .closed (some result) =>
    (activators t.subsystem t.customPath fs).ending.result? = some result
  | _ => True

/-- Every step of a task follows its activator. -/
theorem Turn.follows {activators : Activators} {w : World} {t : Task} {events : List Event}
    {spent : Nat} {scope : Scope Body Result} (turn : Turn activators w t events spent scope)
    (before : t.Follows activators w.fs) : Task.Follows activators w.fs { t with scope } := by
  unfold Task.Follows at before
  cases turn with
  | around own =>
      cases own with
      | created | uncreated | labelled | unlabelled | shown | unshown | undisposed => trivial
      | @disposed result at_ =>
          rw [at_] at before
          cases result with
          | none => trivial
          | some result => exact before
  | called => rfl
  | uncalled | unupdated => trivial
  | updated at_ | acted at_ =>
      rw [at_] at before
      exact before
  | @ended ending at_ =>
      rw [at_] at before
      cases ending with
      | panic => trivial
      | succeed | fail => exact congrArg Ending.result? before.symm

/-- A task is in the hands of its activator and of those who cancel tasks: it follows the activator,
and it is cancelled only if that was asked for. -/
structure Told (activators : Activators) (fs : FileSystem) (moves : Moves)
    (id : Nat) (t : Task) : Prop where
  /-- It follows its activator. -/
  follows : t.Follows activators fs
  /-- If it was cancelled, that was asked for. -/
  asked : t.cancelled = true → ∃ move ∈ moves, move.action = .act (.cancel id)

/-- What happens to a task, it is told. -/
theorem Change.told {setup : Setup} {w : World} {id : Nat} {h : Happening} {events : List Event}
    {t' : Task} {moves : Moves} {move : Move Run Happening Event}
    (change : Change setup w id h events t') (is : move.action = h)
    (before : ∀ t, w.tasks[id]? = some t → Told setup.activators w.fs moves id t) :
    Told setup.activators w.fs (moves ++ [move]) id t' := by
  have more {t : Task}
      (ask : t.cancelled = true → ∃ move ∈ moves, move.action = .act (.cancel id)) :
      t.cancelled = true → ∃ m ∈ moves ++ [move], m.action = .act (.cancel id) := by
    intro cancelled
    obtain ⟨m, hm, is⟩ := ask cancelled
    exact ⟨m, List.mem_append_left _ hm, is⟩
  cases change with
  | launched => exact ⟨trivial, fun cancelled => by cases cancelled⟩
  | same found _ | spared found | late found _ =>
      exact ⟨(before _ found).follows, more (before _ found).asked⟩
  | turned found unsettled turn =>
      exact ⟨turn.follows (before _ found).follows, more (before _ found).asked⟩
  | cancelled found _ =>
      exact ⟨trivial, fun _ => ⟨move, List.mem_append_right _ (List.mem_singleton_self _), is⟩⟩

/-- The file system changes only when the storage directory is made, and then no task does. -/
theorem Step.fs_eq_or {setup : Setup} {r r' : Run} {h : Happening} {events : List Event}
    (made : Step setup r h r' events) :
    r'.world.fs = r.world.fs ∨
      (∃ plan, r.stage = .preparing plan) ∧ r'.world.tasks = r.world.tasks := by
  by_cases own : h = .act .coordinator
  · subst own
    obtain ⟨stage, world⟩ := r
    cases made with
    | coordinator own =>
        cases own with
        | started leads => exact .inl leads.fs
        | stored | unstored => exact .inr ⟨⟨_, rfl⟩, rfl⟩
        | launched | skipped | watched | waited | passed | failed | again | succeeded =>
            exact .inl rfl
  · exact .inl (made.keeps own).fs

/-- While a new task of a run is there, the file system stays the same. -/
theorem fs_eq_of_new {setup : Setup} {w : World} {last next : Run} {moves : Moves} {h : Happening}
    {events : List Event} (before : Run.History setup ⟨.starting, w⟩ moves last)
    (made : Step setup last h next events) {id : Nat} {t : Task} (new : w.tasks.length ≤ id)
    (at_ : next.world.tasks[id]? = some t) : next.world.fs = last.world.fs := by
  rcases made.fs_eq_or with same | ⟨⟨plan, preparing⟩, same⟩
  · exact same
  · -- there is no new task yet
    have few : last.world.tasks.length = w.tasks.length := by
      cases Standing.of_history before with
      | preparing _ tasks _ => simpa using congrArg List.length tasks
      | starting other | launching other | watching other | unstored other | failed other
        | succeeded other =>
          rw [preparing] at other
          cases other
    rw [same, List.getElem?_eq_none (by omega)] at at_
    cases at_

/-- The new tasks of a run are told everything that they come to. -/
theorem told_of_history {setup : Setup} {w : World} {r : Run}
    {moves : Moves} (h : Run.History setup ⟨.starting, w⟩ moves r)
    {id : Nat} {t : Task} (new : w.tasks.length ≤ id) (at_ : r.world.tasks[id]? = some t) :
    Told setup.activators r.world.fs moves id t := by
  induction h generalizing t with
  | nil =>
      rw [List.getElem?_eq_none new] at at_
      cases at_
  | @concat moves last next action events before made ih =>
      have step := step_sound made
      have told : Told setup.activators last.world.fs
          (moves ++ [⟨last, action, next, events⟩]) id t :=
        (step.change at_).told rfl fun t found => ih found
      rwa [fs_eq_of_new before step new at_]

/-! ## What does not depend on activation -/

/-- Whether everything has been launched. -/
def Stage.isLaunched : Stage → Bool
  | .watching .. | .returned _ => true
  | _ => false

/-- What is not a step of activation does not depend on where activation stands. -/
theorem Run.happen?_of_stage {setup : Setup} {before : Stage} {w : World} {h : Happening} {r : Run}
    {events : List Event} (made : Run.happen? setup ⟨before, w⟩ h = some (r, events))
    (other : h ≠ .act .coordinator) (stage : Stage) :
    Run.happen? setup ⟨stage, w⟩ h = some (⟨stage, r.world⟩, events) := by
  cases h with
  | late id message =>
      simp only [Run.happen?] at made ⊢
      cases found : w.tasks[id]? with
      | none =>
          rw [found] at made
          cases made
      | some t =>
          simp only [found] at made ⊢
          split at made
          · rename_i kept
            cases made
            rw [if_pos kept]
          · cases made
  | act action =>
      cases action with
      | coordinator => exact absurd rfl other
      | task id =>
          simp only [Run.happen?, Run.step?, Option.map_eq_some_iff] at made ⊢
          obtain ⟨_, own, same⟩ := made
          cases same
          exact ⟨_, own, rfl⟩
      | openGate | cancel =>
          cases made
          rfl

/-- Looking at tasks, once everything is launched, changes nothing, and nothing happens in it. -/
theorem CoordinatorStep.of_isLaunched {setup : Setup} {w w' : World} {before after : Stage}
    {events : List Event} (own : CoordinatorStep setup w before after w' events)
    (launched : before.isLaunched = true) : w' = w ∧ events = [] ∧ after.isLaunched = true := by
  cases own with
  | started | stored | unstored | launched | skipped | watched => cases launched
  | waited | passed | failed | again | succeeded => exact ⟨rfl, rfl, rfl⟩

/-- **Once everything is launched, activation changes nothing that may happen otherwise**, whether
it goes on looking or has returned: without its steps, and in any other stage, the same may happen.
-/
theorem replays {setup : Setup} {r last : Run} {later : Moves}
    (launched : r.stage.isLaunched = true) (h : Run.History setup r later last) (stage : Stage) :
    last.stage.isLaunched = true ∧
      ∃ replay, Run.History setup ⟨stage, r.world⟩ replay ⟨stage, last.world⟩ ∧
        eventsOf replay = eventsOf later ∧
        replay.map Move.action = (later.map Move.action).filter (· ≠ .act .coordinator) := by
  induction h with
  | nil => exact ⟨launched, [], .nil, rfl, rfl⟩
  | @concat moves last next action events _ made ih =>
      obtain ⟨still, replay, history, same, actions⟩ := ih
      by_cases own : action = .act .coordinator
      · subst own
        obtain ⟨before, world⟩ := last
        cases step_sound made with
        | coordinator own =>
            obtain ⟨rfl, rfl, now⟩ := own.of_isLaunched still
            exact ⟨now, replay, history, by simpa using same, by simpa using actions⟩
      · have kept := (step_sound made).keeps own
        refine ⟨by rw [kept.stage]; exact still, _,
          history.concat (Run.happen?_of_stage made own stage), ?_, ?_⟩
        · rw [eventsOf_append, eventsOf_append, same]
          rfl
        · simp [actions, own]

/-! ## What activation returns -/

/-- Whether the storage step of a run that stands at a stage has succeeded. -/
def Stage.isStored : Stage → Bool
  | .starting | .preparing _ | .returned (.error (.storage ..)) => false
  | _ => true

/-- A storage step that has succeeded stays behind a run. -/
theorem Step.isStored {setup : Setup} {r r' : Run} {h : Happening} {events : List Event}
    (made : Step setup r h r' events) (stored : r.stage.isStored = true) :
    r'.stage.isStored = true := by
  by_cases own : h = .act .coordinator
  · subst own
    obtain ⟨stage, world⟩ := r
    cases made with
    | coordinator own =>
        cases own with
        | started | stored | unstored => cases stored
        | launched | skipped | watched | waited | passed | again | succeeded => rfl
        | @failed _ launch _ _ settled e _ means =>
            cases e with
            | storage => rcases settled with (_ | _) | _ | _ <;> cases means
            | subsystem | panicked | cancelled => rfl
  · rw [(made.keeps own).stage]
    exact stored

/-- What activation has returned, it has returned for good. -/
theorem Step.returned {setup : Setup} {r r' : Run} {h : Happening} {events : List Event}
    {result : Except Error Summary} (made : Step setup r h r' events)
    (finished : r.stage = .returned result) : r'.stage = .returned result := by
  by_cases own : h = .act .coordinator
  · subst own
    obtain ⟨stage, world⟩ := r
    cases finished
    cases made with
    | coordinator own => cases own
  · rw [(made.keeps own).stage, finished]

/-- A successful return: of the tasks, which all have succeeded, and of the subsystems without one.
-/
structure Succeeded (setup : Setup) (known : Nat) (w : World) (noted : List Log.Record)
    (summary : Summary) : Prop where
  /-- There is a task for every enabled subsystem, in launch order. -/
  tasks : (w.tasks.drop known).map Task.subsystem = enabled setup.settings
  /-- Each has succeeded, as its activator has. -/
  settled : ∀ t ∈ w.tasks.drop known, t.settled? = some (.ended .succeeded) ∧
    (setup.activators t.subsystem t.customPath w.fs).ending = .succeed
  /-- The enabled subsystems are launched. -/
  launched : summary.launched = enabled setup.settings
  /-- The disabled ones are skipped. -/
  skipped : summary.skipped = disabled setup.settings
  /-- Together they are all subsystems, each once. -/
  once : (summary.launched ++ summary.skipped).Perm Subsystem.all
  /-- There is one notice for each one that is skipped. -/
  noted : noted = summary.skipped.map skipRecord

/-- What the task that an error comes from has come to. -/
inductive Blamed (setup : Setup) (w : World) (moves : Moves) (id : Nat)
    (t : Task) : Error → Prop where
  /-- Its activator has failed. -/
  | failed {chain : List String} (settled : t.settled? = some (.ended (.failed chain)))
      (ending : (setup.activators t.subsystem t.customPath w.fs).ending = .fail chain) :
      Blamed setup w moves id t (.subsystem t.subsystem chain)
  /-- It has broken down. -/
  | panicked (settled : t.settled? = some .panicked) :
      Blamed setup w moves id t (.panicked t.subsystem)
  /-- It was cancelled, as was asked for. -/
  | cancelled (settled : t.settled? = some .cancelled)
      (asked : ∃ move ∈ moves, move.action = .act (.cancel id)) :
      Blamed setup w moves id t (.cancelled t.subsystem)

/-- The activator of a task that has ended has ended in the same way. -/
theorem Told.ending {activators : Activators} {fs : FileSystem}
    {moves : Moves} {id : Nat} {t : Task} {result : Result}
    (told : Told activators fs moves id t) (settled : t.settled? = some (.ended result)) :
    (activators t.subsystem t.customPath fs).ending.result? = some result := by
  have follows := told.follows
  unfold Task.Follows at follows
  unfold Task.settled? at settled
  cases spared : t.cancelled with
  | true => simp [spared] at settled
  | false =>
      rw [spared, if_neg Bool.false_ne_true] at settled
      cases at_ : t.scope.phase with
      | closed result' =>
          cases result' with
          | none => simp [at_] at settled
          | some result' =>
              simp only [at_, Option.some.injEq, Settled.ended.injEq] at settled follows
              rw [follows, settled]
      | fresh | created | labelled | shown | running | closing => simp [at_] at settled

/-- A task that has settled as cancelled was cancelled. -/
theorem cancelled_of_settled {t : Task} (settled : t.settled? = some .cancelled) :
    t.cancelled = true := by
  unfold Task.settled? at settled
  cases cancelled : t.cancelled with
  | true => rfl
  | false =>
      rw [cancelled, if_neg Bool.false_ne_true] at settled
      split at settled <;> cases settled

/-- Only the ending that succeeds results in success. -/
theorem Ending.result?_eq_succeeded {ending : Ending} (h : ending.result? = some .succeeded) :
    ending = .succeed := by
  cases ending with
  | succeed => rfl
  | fail | panic => cases h

/-- Only the ending that fails results in failure, with the same causes. -/
theorem Ending.result?_eq_failed {ending : Ending} {chain : List String}
    (h : ending.result? = some (.failed chain)) : ending = .fail chain := by
  cases ending with
  | fail =>
      cases h
      rfl
  | succeed | panic => cases h

namespace Standing

variable {setup : Setup} {old : List (Subsystem × Option FilePath)} {noted : List Log.Record}
  {r : Run} {moves : Moves}

/-- A carried-out plan has a task for every enabled subsystem. -/
theorem map_subsystem_drop {progress : Progress} {w : World}
    (launched : Launched old (plan setup.settings setup.env) progress noted w) :
    (w.tasks.drop old.length).map Task.subsystem = enabled setup.settings := by
  have chosen : (plan setup.settings setup.env).chosen.map Prod.fst = enabled setup.settings :=
    map_fst_chosen_plan
  rw [← chosen, ← launched.map_purpose_drop, List.map_map]
  rfl

/-- Once everything is launched, the plan has been carried out. -/
theorem carried_out (st : Standing setup old noted r) (stored : r.stage.isStored = true)
    (launched : r.stage.isLaunched = true) :
    ∃ progress, Launched old (plan setup.settings setup.env) progress noted r.world := by
  cases st with
  | watching _ all | failed _ all | succeeded _ all => exact ⟨_, all⟩
  | unstored at_ =>
      rw [at_] at stored
      cases stored
  | starting at_ | preparing at_ | launching at_ =>
      rw [at_] at launched
      cases launched

/-- Activation returns success for tasks that have all succeeded. -/
theorem of_ok {summary : Summary} (st : Standing setup old noted r)
    (at_ : r.stage = .returned (.ok summary))
    (told : ∀ id t, old.length ≤ id → r.world.tasks[id]? = some t →
      Told setup.activators r.world.fs moves id t) :
    Succeeded setup old.length r.world noted summary := by
  cases st with
  | @succeeded progress same launched well =>
      rw [at_] at same
      cases same
      have fsts : progress.summary.launched = enabled setup.settings := by
        simp only [Progress.summary, launched.launches, List.zipIdx_map_fst, map_fst_chosen_plan]
      have snds : progress.summary.skipped = disabled setup.settings :=
        launched.skipped.trans omitted_plan
      refine ⟨map_subsystem_drop launched, fun t ht => ?_, fsts, snds, ?_, launched.noted⟩
      · obtain ⟨id, found, hl⟩ := launched.mem_launches ht
        have settled : t.settled? = some (.ended .succeeded) := by
          simpa [World.settled?, found] using well _ hl
        exact ⟨settled, Ending.result?_eq_succeeded
          ((told id t (launched.mem_launches_iff.mp hl).1 found).ending settled)⟩
      · rw [fsts, snds]
        exact enabled_append_disabled_perm _
  | starting other | preparing other | launching other | watching other | unstored other
    | failed other =>
      rw [at_] at other
      cases other

/-- Activation returns an error for a task that has settled in that way. -/
theorem of_error {e : Error} (st : Standing setup old noted r)
    (at_ : r.stage = .returned (.error e)) (stored : r.stage.isStored = true)
    (told : ∀ id t, old.length ≤ id → r.world.tasks[id]? = some t →
      Told setup.activators r.world.fs moves id t) :
    ∃ id t, old.length ≤ id ∧ r.world.tasks[id]? = some t ∧
      t.subsystem ∈ enabled setup.settings ∧ Blamed setup r.world moves id t e := by
  -- behind the storage step, only a task that was looked at gives an error
  cases st with
  | @failed progress launch settled e' same launched member ill means =>
      rw [at_] at same
      cases same
      obtain ⟨t, ht, found, own⟩ := launched.exists_task member
      have new : old.length ≤ launch.2 := (launched.mem_launches_iff.mp member).1
      have settled_ : t.settled? = some settled := by
        simpa [World.settled?, found] using ill
      refine ⟨launch.2, t, new, found, ?_, ?_⟩
      · rw [← map_subsystem_drop launched]
        exact List.mem_map_of_mem ht
      · rw [← own] at means
        rcases settled with (_ | chain) | _ | _
        · cases means
        · cases means
          exact .failed settled_ (Ending.result?_eq_failed ((told _ t new found).ending settled_))
        · cases means
          exact .panicked settled_
        · cases means
          exact .cancelled settled_ ((told _ t new found).asked (cancelled_of_settled settled_))
  | unstored other =>
      rw [other] at stored
      cases stored
  | starting other | preparing other | launching other | watching other | succeeded other =>
      rw [at_] at other
      cases other

end Standing

/-- The storage step of a run has succeeded. -/
def Stored (moves : Moves) : Prop :=
  ∃ move ∈ moves, move.target.stage.isStored = true

/-- **Activation returns what the tasks that it has launched have come to.** -/
theorem returns_what_tasks_came_to {setup : Setup} {w : World} {r : Run}
    {moves before after : Moves} {move : Move Run Happening Event}
    (h : Run.History setup ⟨.starting, w⟩ moves r) (stored : Stored moves)
    (parts : moves = before ++ move :: after) (own : move.action = .act .coordinator) :
    (∀ summary, move.target.stage = .returned (.ok summary) →
      Succeeded setup w.tasks.length move.target.world (notices (before ++ [move])) summary) ∧
    (∀ e, move.target.stage = .returned (.error e) →
      ∃ id t, w.tasks.length ≤ id ∧ move.target.world.tasks[id]? = some t ∧
        t.subsystem ∈ enabled setup.settings ∧
        Blamed setup move.target.world (before ++ [move]) id t e) ∧
    (∀ progress left unsettled, move.source.stage = .watching progress left unsettled →
      (move.source.world.tasks.drop w.tasks.length).map Task.subsystem =
        enabled setup.settings) ∧
    (move.target.stage.isLaunched = true → ∀ stage later last,
      Run.History setup move.target later last →
        ∃ replay, Run.History setup ⟨stage, move.target.world⟩ replay ⟨stage, last.world⟩ ∧
          eventsOf replay = eventsOf later ∧
          replay.map Move.action = (later.map Move.action).filter (· ≠ .act .coordinator)) := by
  subst parts
  obtain ⟨earlier, made, later⟩ := h.split
  obtain ⟨source, action, target, events⟩ := move
  subst own
  have now : Run.History setup ⟨.starting, w⟩ (before ++ [_]) target := earlier.concat made
  have st := Standing.of_history now
  have length : (w.tasks.map Task.purpose).length = w.tasks.length := List.length_map ..
  have told : ∀ id t, (w.tasks.map Task.purpose).length ≤ id → target.world.tasks[id]? = some t →
      Told setup.activators target.world.fs (before ++ [_]) id t :=
    fun id t new found => told_of_history now (length ▸ new) found
  refine ⟨fun summary at_ => ?_, fun e at_ => ?_, fun progress left unsettled at_ => ?_,
    fun launched stage later last h => (replays launched h stage).2⟩
  · exact length ▸ st.of_ok at_ told
  · have stored : target.stage.isStored = true := by
      -- what was returned here is there in the end, when the storage step has succeeded
      have last : r.stage = .returned (.error e) :=
        later.keeps (P := fun r => r.stage = .returned (.error e)) at_
          fun _ _ _ _ finished made => (step_sound made).returned finished
      obtain ⟨m, hm, reached⟩ := stored
      have kept : r.stage.isStored = true :=
        h.keeps_from (P := fun r => r.stage.isStored = true) hm reached
          fun _ _ _ _ stored made => (step_sound made).isStored stored
      rwa [at_, ← last]
    obtain ⟨id, t, new, found, own, blamed⟩ := st.of_error at_ stored told
    exact ⟨id, t, length ▸ new, found, own, blamed⟩
  · obtain ⟨progress, launched⟩ := (Standing.of_history earlier).carried_out (by rw [at_]; rfl)
      (by rw [at_]; rfl)
    exact length ▸ Standing.map_subsystem_drop launched

/-- An activation at its start, in a world whose storage directory is the root. -/
def rootRun : Run :=
  ⟨.starting, .fresh ⟨[], [], []⟩ (.fresh .none (.ofString "/") (.ofString "/"))⟩

/-- Both subsystems are enabled; the second cannot be started while the first one waits. -/
def quarrel : Setup where
  activators := fun s _ _ =>
    match s with
    | .languageServer => ⟨false, [.wait "gate"], .succeed⟩
    | .debugAdapter => ⟨false, [], .fail ["no port"]⟩
  settings := .initial
  env := ⟨[]⟩

/-- Everything is launched, the second task settles, and activation looks at the first. -/
def quarrelling : List Happening :=
  List.replicate 5 (.act .coordinator) ++ List.replicate 6 (.act (.task 1)) ++
    [.act .coordinator]

/-- The moves of this run up to the return. -/
def quarrelMoves : Moves :=
  movesOf (Run.happen? quarrel) rootRun (quarrelling ++ [.act .coordinator])

/-- Activation returns the error of the second subsystem while the first task has not settled. -/
theorem returns_what_tasks_came_to_quarrel :
    ∃ before move, quarrelMoves = before ++ [move] ∧ move.action = .act .coordinator ∧
      Stored quarrelMoves ∧
      move.target.stage = .returned (.error (.subsystem .debugAdapter ["no port"])) ∧
      move.target.world.settled? 0 = none ∧
      ∃ id t, move.target.world.tasks[id]? = some t ∧
        Blamed quarrel move.target.world (before ++ [move]) id t
          (.subsystem .debugAdapter ["no port"]) := by
  obtain ⟨move, parts, own, at_, waits⟩ :
      ∃ move, quarrelMoves = movesOf (Run.happen? quarrel) rootRun quarrelling ++ [move] ∧
        move.action = .act .coordinator ∧
        move.target.stage = .returned (.error (.subsystem .debugAdapter ["no port"])) ∧
        move.target.world.settled? 0 = none := ⟨_, rfl, rfl, rfl, rfl⟩
  have stored : Stored quarrelMoves := by
    refine ⟨move, ?_, ?_⟩
    · rw [parts]
      exact List.mem_append_right _ (List.mem_singleton_self _)
    · rw [at_]
      rfl
  have history : Run.History quarrel rootRun quarrelMoves _ :=
    .of_actions _ _ (quarrelling ++ [.act .coordinator])
  obtain ⟨id, t, -, found, -, blamed⟩ :=
    (returns_what_tasks_came_to history stored parts own).2.1 _ at_
  exact ⟨_, move, parts, own, stored, at_, waits, id, t, found, blamed⟩

/-- A run of the one subsystem that is enabled returns success and skips the other one. -/
example :
    (endOf (Run.happen?
        ⟨fun _ _ _ => ⟨false, [], .succeed⟩, ⟨.initial, ⟨false, "", []⟩, none⟩, ⟨[]⟩⟩)
      rootRun (List.replicate 5 (.act .coordinator) ++ List.replicate 6 (.act (.task 0)) ++
        List.replicate 2 (.act .coordinator))).stage =
      .returned (.ok ⟨[.languageServer], [.debugAdapter], .existing⟩) := rfl

end ToolingHost.Activation
