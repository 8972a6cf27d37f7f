import ToolingHost.Activation.Kotlin
import ToolingHost.Proofs.Activation.Calls
import ToolingHost.Proofs.Executable.Locate

/-! # Whose settings an activator is given

What an activator of Kotlin starts or registers is among the acts that it was called for
(`Task.Faithful`), so it has the path and the arguments of its own subsystem (`act_of_outset`). What
the settings say of a subsystem that they disable reaches nobody: other settings that differ in this
only have the same runs (`History.congr_setup`). -/

namespace ToolingHost.Activation

/-! ## What activators do -/

/-- A task does what its activator does, called with its own path. -/
def Task.Faithful (activators : Activators) (t : Task) : Prop :=
  ∃ fs, ∀ a ∈ t.acts, (∃ place, a = .meeting place) ∨
    a ∈ (activators t.subsystem t.customPath fs).acts

section Acts

variable {setup : Setup} {activators : Activators} {w : World} {r : Run} {moves : Moves}
  {events : List Event} {e : Event} {a : Act} {t : Task} {id spent : Nat}
  {scope : Scope Body Result}

/-- Meeting another activator neither starts nor registers anything. -/
theorem outset?_ne_meeting (e : Event) (place : Nat) : e.outset? ≠ some (.meeting place) := by
  unfold Event.outset?
  split <;> exact nofun

/-- A task that has nothing to do is faithful. -/
theorem Task.Faithful.of_acts_eq_nil (none_ : t.acts = []) : t.Faithful activators :=
  ⟨⟨[], [], []⟩, by rw [none_]; exact List.forall_mem_nil _⟩

/-- A faithful task stays faithful. -/
theorem Turn.faithful (turn : Turn activators w t events spent scope)
    (before : t.Faithful activators) : Task.Faithful activators { t with scope } := by
  obtain ⟨fs, acts⟩ := before
  have fewer {a : Act} {rest : List Act} {ending : Ending}
      (at_ : t.scope.phase = .running ⟨a :: rest, ending⟩) : ∀ b ∈ rest,
        (∃ place, b = .meeting place) ∨ b ∈ (activators t.subsystem t.customPath fs).acts := by
    intro b hb
    apply acts
    rw [Task.acts, at_]
    exact List.mem_cons_of_mem _ hb
  cases turn with
  | around own => cases own <;> exact .of_acts_eq_nil rfl
  | called => exact ⟨w.fs, fun a ha => .inr ha⟩
  | uncalled | unupdated | ended => exact .of_acts_eq_nil rfl
  | updated at_ => exact ⟨fs, fewer at_⟩
  | acted at_ _ _ _ left =>
      -- arriving at the meeting place leaves the waiting there, an act that nobody returned
      rcases left with rfl | ⟨place, rfl⟩
      · exact ⟨fs, fewer at_⟩
      · exact ⟨fs, List.forall_mem_cons.mpr ⟨.inl ⟨place, rfl⟩, fewer at_⟩⟩

/-- The tasks of a run are faithful. -/
theorem faithful_of_history (h : Run.History setup ⟨.starting, w⟩ moves r)
    (new : w.tasks.length ≤ id) (found : r.world.tasks[id]? = some t) :
    t.Faithful setup.activators := by
  induction h generalizing t with
  | nil =>
      rw [List.getElem?_eq_none new] at found
      cases found
  | concat _ made ih =>
      cases (step_sound made).change found with
      | launched | cancelled => exact .of_acts_eq_nil rfl
      | same before | spared before | late before => exact ih before
      | turned before _ turn => exact turn.faithful (ih before)

/-- **What a run itself starts or registers is an act of the activator of an enabled subsystem**,
called with the path that the subsystem's own settings give. -/
theorem act_of_outset (h : Run.History setup ⟨.starting, w⟩ moves r)
    {move : Move Run Happening Event} (hm : move ∈ moves)
    (own : isOwn w.tasks.length move = true) (he : e ∈ move.events) (is : e.outset? = some a) :
    ∃ s fs, s ∈ enabled setup.settings ∧
      a ∈ (setup.activators s ((setup.settings.subsystem s).customPath setup.env) fs).acts := by
  obtain ⟨⟨before, earlier⟩, made⟩ := h.of_mem hm
  cases (step_sound made).origin he with
  | rules _ _ same | record _ same | call _ _ same =>
      rw [same] at is
      cases is
  | item _ _ about =>
      rw [(Event.of_item? about).2.2] at is
      cases is
  | @effect id t b turn found next shown =>
      have new : w.tasks.length ≤ id := by simpa [isOwn, turn, Happening.subject?] using own
      obtain ⟨fs, acts⟩ := faithful_of_history earlier new found
      obtain ⟨-, wanted, path⟩ := purpose_of_history earlier new found
      have same : b = a := (Act.of_mem_effect shown).2 a is
      have used : a ∈ (setup.activators t.subsystem t.customPath fs).acts := by
        rcases acts a (same ▸ next) with ⟨place, rfl⟩ | used
        · exact absurd is (outset?_ne_meeting e place)
        · exact used
      exact ⟨t.subsystem, fs, wanted, path ▸ used⟩

end Acts

namespace Kotlin

variable {around : Surroundings} {settings : Config.Settings} {s : Subsystem} {fs : FileSystem}
  {custom : Option FilePath}

/-- The path that the settings give is the one that is used. -/
theorem path_of_locate {env : Environment} {e : Executable} {storage p : FilePath}
    {found : Executable.Located} (own : custom = some p)
    (located : Executable.locate fs env e custom storage = .ok found) : found.path = p := by
  subst own
  have answers := Executable.answers_locate fs env e (some p) storage
  rw [located] at answers
  cases answers
  rfl

/-- What comes after the search for an executable is about the one that was found. -/
theorem of_mem_locating {target : String} {e : Executable} {next : Executable.Located → Behaviour}
    {a : Act} (ha : a ∈ (locating around fs target e custom next).acts)
    (silent : ∀ message, a ≠ .update message) (unlogged : ∀ record, a ≠ .log record) :
    ∃ found, a ∈ (next found).acts ∧ ∀ p, custom = some p → found.path = p := by
  unfold locating at ha
  rcases List.mem_append.mp ha with update | later
  · exact absurd (List.mem_singleton.mp update) (silent _)
  · split at later
    · cases later
    · rename_i found located
      rcases List.mem_append.mp later with logs | later
      · exfalso
        rcases List.mem_append.mp logs with warning | using_
        · obtain ⟨record, -, rfl⟩ := List.mem_map.mp warning
          exact unlogged record rfl
        · exact unlogged _ (List.mem_singleton.mp using_)
      · exact ⟨found, later, fun p own => path_of_locate own located⟩

/-- Opening a conversation starts and registers nothing. -/
theorem of_mem_opening {dialogue : Dialogue} {a : Act} (ha : a ∈ («opening» dialogue).acts) :
    (∃ message, a = .update message) ∨ (∃ record, a = .log record) ∨
      ∃ subscription, a = .subscribe subscription := by
  unfold «opening» at ha
  rcases List.mem_append.mp ha with first | later
  · rcases List.mem_cons.mp first with rfl | logged
    · exact .inl ⟨_, rfl⟩
    · obtain ⟨record, -, rfl⟩ := List.mem_map.mp logged
      exact .inr (.inl ⟨record, rfl⟩)
  · split at later
    · cases later
    · rcases List.mem_cons.mp later with rfl | later
      · exact .inr (.inr ⟨_, rfl⟩)
      · rw [List.mem_singleton.mp later]
        exact .inr (.inl ⟨_, rfl⟩)

/-- Starting the server at a path starts that and registers nothing. -/
theorem of_mem_starting {args : List String} {path : FilePath} {a : Act}
    (ha : a ∈ (starting around fs args path).acts) :
    a = .start path args ∨ (∃ message, a = .update message) ∨ (∃ record, a = .log record) ∨
      ∃ subscription, a = .subscribe subscription := by
  unfold starting at ha
  rcases List.mem_append.mp ha with first | later
  · exact .inr (.inl ⟨_, List.mem_singleton.mp first⟩)
  · split at later
    · cases later
    · rcases List.mem_append.mp later with start | later
      · exact .inl (List.mem_singleton.mp start)
      · exact .inr (of_mem_opening later)

/-- Only the language server is started, with the arguments of its own settings and from the path
that it is called with. -/
theorem of_start_mem {program : FilePath} {args : List String}
    (ha : .start program args ∈ (activators around settings s custom fs).acts) :
    s = .languageServer ∧ args = settings.languageServer.args ∧
      ∀ p, custom = some p → program = p := by
  cases s with
  | languageServer =>
      obtain ⟨found, later, own⟩ := of_mem_locating ha nofun nofun
      rcases of_mem_starting later with same | ⟨_, other⟩ | ⟨_, other⟩ | ⟨_, other⟩
      · cases same
        exact ⟨rfl, rfl, own⟩
      · cases other
      · cases other
      · cases other
  | debugAdapter =>
      obtain ⟨found, later, -⟩ := of_mem_locating ha nofun nofun
      simp at later

/-- Only the debug adapter is registered, with the arguments of its own settings and at the path
that it is called with. -/
theorem of_register_mem {registration : DebugAdapter.Registration}
    (ha : .register registration ∈ (activators around settings s custom fs).acts) :
    s = .debugAdapter ∧ ∃ path,
      registration = DebugAdapter.Kotlin.registration path settings.debugAdapter.args ∧
      ∀ p, custom = some p → path = p := by
  cases s with
  | languageServer =>
      obtain ⟨found, later, -⟩ := of_mem_locating ha nofun nofun
      rcases of_mem_starting later with other | ⟨_, other⟩ | ⟨_, other⟩ | ⟨_, other⟩ <;> cases other
  | debugAdapter =>
      obtain ⟨found, later, own⟩ := of_mem_locating ha nofun nofun
      have same : registration =
          DebugAdapter.Kotlin.registration found.path settings.debugAdapter.args := by
        simpa [Config.Settings.subsystem] using later
      exact ⟨rfl, found.path, same, own⟩

end Kotlin

/-! ## What the settings of disabled subsystems do -/

/-- Settings that differ only in what they say of subsystems that both disable. -/
structure SameWhereEnabled (settings others : Config.Settings) : Prop where
  /-- They enable the same subsystems. -/
  enabled : ∀ s, (others.subsystem s).enabled = (settings.subsystem s).enabled
  /-- They say the same of these. -/
  same : ∀ s, (settings.subsystem s).enabled = true → others.subsystem s = settings.subsystem s

/-- Settings that differ only in disabled subsystems have the same plan. -/
theorem SameWhereEnabled.plan_eq {settings others : Config.Settings}
    (alike : SameWhereEnabled settings others) (env : Environment) :
    plan others env = plan settings env := by
  unfold plan
  apply List.map_congr_left
  intro s _
  dsimp only
  rw [alike.enabled s]
  by_cases on : (settings.subsystem s).enabled = true
  · rw [alike.same s on]
  · rw [if_neg on, if_neg on]

/-- The activators of Kotlin are the same for such settings, where they are called. -/
theorem SameWhereEnabled.activators_eq {settings others : Config.Settings}
    (alike : SameWhereEnabled settings others) (around : Kotlin.Surroundings) {s : Subsystem}
    (on : (settings.subsystem s).enabled = true) :
    Kotlin.activators around others s = Kotlin.activators around settings s := by
  have args : (others.subsystem s).args = (settings.subsystem s).args := by rw [alike.same s on]
  cases s with
  | languageServer =>
      show Kotlin.activateServer around (others.subsystem .languageServer).args = _
      rw [args]
      rfl
  | debugAdapter =>
      show Kotlin.registerAdapter around (others.subsystem .debugAdapter).args = _
      rw [args]
      rfl

section Congr

variable {setup other : Setup} {w : World} {r : Run} {moves : Moves}

/-- A step of a task depends on the activator of its subsystem only. -/
theorem World.stepTask?_congr {activators others : Activators} {id : Nat}
    (same : ∀ t, w.tasks[id]? = some t → others t.subsystem = activators t.subsystem) :
    w.stepTask? others id = w.stepTask? activators id := by
  unfold World.stepTask?
  cases found : w.tasks[id]? with
  | none => rfl
  | some t =>
      have called : w.callActivator others id t = w.callActivator activators id t := by
        unfold World.callActivator
        rw [same t found]
      dsimp only
      rw [called]

/-- A step of activation depends on the plan only. -/
theorem stepStage?_congr {settings others : Config.Settings} {env : Environment} {stage : Stage}
    (same : plan others env = plan settings env) :
    stepStage? others env w stage = stepStage? settings env w stage := by
  cases stage with
  | starting =>
      unfold stepStage?
      rw [same]
  | preparing | returned => rfl
  | launching plan => rcases plan with _ | ⟨⟨s, _ | path⟩, rest⟩ <;> rfl
  | watching progress left unsettled =>
      rcases left with _ | ⟨launch, left⟩
      · cases unsettled <;> rfl
      · rfl

/-- **Other setups that agree on the enabled subsystems have the same runs.** -/
theorem History.congr_setup (h : Run.History setup ⟨.starting, w⟩ moves r)
    (env : other.env = setup.env) (alike : SameWhereEnabled setup.settings other.settings)
    (activators : ∀ s, s ∈ enabled setup.settings ∨ s ∈ w.tasks.map Task.subsystem →
      other.activators s = setup.activators s) :
    Run.History other ⟨.starting, w⟩ moves r := by
  induction h with
  | nil => exact .nil
  | @concat moves last next action events before made ih =>
      refine ih.concat ?_
      rw [← made]
      cases action with
      | late => rfl
      | act action =>
          cases action with
          | coordinator =>
              show (stepStage? other.settings other.env last.world last.stage).map _ = _
              rw [env, stepStage?_congr (alike.plan_eq setup.env)]
              rfl
          | task id =>
              -- what takes a step was there before, or has been launched for an enabled subsystem
              have same : last.world.stepTask? other.activators id =
                  last.world.stepTask? setup.activators id := by
                apply World.stepTask?_congr
                intro t found
                apply activators
                rcases purpose_cases before found with ⟨-, old⟩ | ⟨-, planned⟩
                · exact .inr old
                · exact .inl (mem_chosen_plan.mp planned).1
              show (last.world.stepTask? other.activators id).map _ = _
              rw [same]
              rfl
          | openGate | cancel => rfl

end Congr

/-! ## What reaches an activator -/

/-- The path that a subsystem's own setting gives: its text with the references replaced, unless
that is empty. -/
def ownPath (setup : Setup) (s : Subsystem) : Option FilePath :=
  let text := Config.Expansion.expand setup.env.text? (setup.settings.subsystem s).path
  if text = "" then none else some (.ofString text)

/-- A subsystem is launched with the path that its own setting gives. -/
theorem customPath_eq_ownPath (setup : Setup) (s : Subsystem) :
    (setup.settings.subsystem s).customPath setup.env = ownPath setup s := by
  simp [Config.SubsystemSettings.customPath, Config.customPath, ownPath]

/-- **An activator is given the settings of its own subsystem, and is called once, when its task has
got to run.** The activators of Kotlin start and register executables with their own paths and
arguments only, and what the settings say of disabled subsystems changes nothing in a run. -/
theorem activators_get_own_settings {setup : Setup} {w : World} {r : Run} {moves : Moves}
    (h : Run.History setup ⟨.starting, w⟩ moves r) :
    (∀ s, (callsOf w.tasks.length s moves).length ≤ 1 ∧
      (∀ path ∈ callsOf w.tasks.length s moves, path = ownPath setup s) ∧
      ((callsOf w.tasks.length s moves).length = 1 ↔
        s ∈ enabled setup.settings ∧ r.stage.isStored = true ∧
          GotToRun w.tasks.length moves r s)) ∧
    (∀ around, setup.activators = Kotlin.activators around setup.settings →
      ∀ move ∈ moves, isOwn w.tasks.length move = true →
        (∀ program args, .started program args ∈ move.events →
          args = setup.settings.languageServer.args ∧
          ∀ p, ownPath setup .languageServer = some p → program = p) ∧
        ∀ registration, .host (.registerDebugAdapter registration) ∈ move.events →
          ∃ path, registration =
            DebugAdapter.Kotlin.registration path setup.settings.debugAdapter.args ∧
          ∀ p, ownPath setup .debugAdapter = some p → path = p) ∧
    (∀ other : Setup, other.env = setup.env → SameWhereEnabled setup.settings other.settings →
      (∀ s, s ∈ enabled setup.settings ∨ s ∈ w.tasks.map Task.subsystem →
        other.activators s = setup.activators s) →
      Run.History other ⟨.starting, w⟩ moves r) := by
  refine ⟨?_, ?_, ?_⟩
  · intro s
    rcases calls_of_history h s with ⟨none_, idle⟩ | ⟨once, wanted, stored, ran⟩
    · rw [none_]
      refine ⟨Nat.zero_le 1, List.forall_mem_nil _, ?_⟩
      constructor
      · intro some_
        cases some_
      · rintro ⟨-, -, ran⟩
        exact absurd ran idle
    · rw [once, customPath_eq_ownPath]
      exact ⟨Nat.le_refl 1, by simp, fun _ => ⟨wanted, stored, ran⟩, fun _ => rfl⟩
  · rintro around kotlin move hm own
    constructor
    · intro program args he
      obtain ⟨s, fs, -, used⟩ := act_of_outset h hm own he rfl
      rw [kotlin] at used
      obtain ⟨rfl, same, path⟩ := Kotlin.of_start_mem used
      rw [customPath_eq_ownPath] at path
      exact ⟨same, path⟩
    · intro registration he
      obtain ⟨s, fs, -, used⟩ := act_of_outset h hm own he rfl
      rw [kotlin] at used
      obtain ⟨rfl, path, same, given⟩ := Kotlin.of_register_mem used
      rw [customPath_eq_ownPath] at given
      exact ⟨path, same, given⟩
  -- the same moves are a history with the other settings, step by step
  · intro other env alike activators
    exact History.congr_setup h env alike activators

/-- The debug adapter is at the path in a variable; what is said of the language server is not used.
-/
def lopsidedSettings (unused : String) : Config.Settings where
  languageServer := ⟨false, unused, [unused]⟩
  debugAdapter := ⟨true, "$\x7bADAPTER\x7d", ["--port"]⟩
  log := none

/-- The activators of Kotlin for these settings. -/
def lopsided (unused : String) : Setup where
  activators := Kotlin.activators ⟨⟨[]⟩, .ofString "/", fun _ => false, [], none, []⟩
    (lopsidedSettings unused)
  settings := lopsidedSettings unused
  env := ⟨[(Bytes.ofString "ADAPTER", Bytes.ofString "/")]⟩

/-- A run in which the debug adapter is registered. -/
def lopsidedMoves : Moves :=
  movesOf (Run.happen? (lopsided "a")) rootRun
    (List.replicate 5 (.act .coordinator) ++ List.replicate 8 (.act (.task 0)))

/-- The debug adapter is registered at its own path with its own arguments, whatever is said of the
language server. -/
theorem activators_get_own_settings_lopsided :
    callsOf 0 .debugAdapter lopsidedMoves = [some (.ofString "/")] ∧
      (∃ r, Run.History (lopsided "a") rootRun lopsidedMoves r ∧
        Run.History (lopsided "b") rootRun lopsidedMoves r) ∧
      ∃ registration, .host (.registerDebugAdapter registration) ∈ eventsOf lopsidedMoves ∧
        registration = DebugAdapter.Kotlin.registration (.ofString "/") ["--port"] := by
  obtain ⟨r, history⟩ : ∃ r, Run.History (lopsided "a") rootRun lopsidedMoves r :=
    ⟨_, .of_actions _ _ _⟩
  obtain ⟨calls, tools, others⟩ := activators_get_own_settings history
  have path : ownPath (lopsided "a") .debugAdapter = some (.ofString "/") := rfl
  have called : (callsOf 0 .debugAdapter lopsidedMoves).length = 1 := rfl
  refine ⟨?_, ⟨r, history, ?_⟩, ?_⟩
  · obtain ⟨given, only⟩ := List.length_eq_one_iff.mp called
    have member : given ∈ callsOf 0 .debugAdapter lopsidedMoves := by
      rw [only]
      exact List.mem_singleton_self given
    have own : given = ownPath (lopsided "a") .debugAdapter :=
      (calls .debugAdapter).2.1 given member
    rw [only, own, path]
  · have alike : SameWhereEnabled (lopsidedSettings "a") (lopsidedSettings "b") := by
      constructor
      · intro s
        cases s <;> rfl
      · intro s on
        cases s with
        | languageServer => cases on
        | debugAdapter => rfl
    refine others (lopsided "b") rfl alike ?_
    rintro s (wanted | old)
    · exact alike.activators_eq _ (List.mem_filter.mp wanted).2
    · cases old
  · obtain ⟨move, at_, own, registration, he⟩ :
        ∃ move, lopsidedMoves[12]? = some move ∧ isOwn 0 move = true ∧
          ∃ registration, Event.host (.registerDebugAdapter registration) ∈ move.events :=
      ⟨_, rfl, rfl, _, List.mem_singleton_self _⟩
    have hm : move ∈ lopsidedMoves := List.mem_of_getElem? at_
    obtain ⟨used, same, given⟩ := (tools _ rfl move hm own).2 registration he
    exact ⟨registration, List.mem_flatMap.mpr ⟨move, hm, he⟩, by rw [same, given _ path]; rfl⟩

/-- The task of an enabled subsystem may run and settle although its activator is never called: the
host breaks down when it is to create the status item. -/
theorem uncalled_though_run :
    ∃ moves r t, Run.History quarrel faultyRun moves r ∧
      .languageServer ∈ enabled quarrel.settings ∧ r.stage.isStored = true ∧
      r.world.tasks[0]? = some t ∧ t.subsystem = .languageServer ∧ 0 < turnsOf 0 moves ∧
      t.settled? = some .panicked ∧ callsOf 0 .languageServer moves = [] :=
  ⟨_, _, _, .of_actions _ _ (List.replicate 5 (.act .coordinator) ++ [.act (.task 0)]), by decide,
    rfl, rfl, rfl, by decide, rfl, rfl⟩

end ToolingHost.Activation
