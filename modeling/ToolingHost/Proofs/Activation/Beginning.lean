import ToolingHost.Proofs.Activation.Account

/-! # How a run begins

Activation sets the editing rules, then makes the storage directory, and launches tasks only if that
has succeeded. What a run brings about itself is what is seen of activation and of the tasks that it
has launched (`ownEvents`); a world may have older tasks, which go on as they like. `Beginning` says
for every stage what the run itself has brought about until then, and every step keeps it. -/

namespace ToolingHost.Activation

/-! ## What a run launches -/

section Plan

variable {setup : Setup} {w : World} {r : Run} {moves : Moves} {settings : Config.Settings}
  {env : Environment}

/-- A plan launches the enabled subsystems, each with the path that its own settings give. -/
theorem mem_chosen_plan {s : Subsystem} {path : Option FilePath} :
    (s, path) ∈ (plan settings env).chosen ↔
      s ∈ enabled settings ∧ path = (settings.subsystem s).customPath env := by
  simp only [Plan.chosen, plan, enabled, List.mem_filterMap, List.mem_map, List.mem_filter]
  constructor
  · rintro ⟨_, ⟨s', hs, rfl⟩, chosen⟩
    dsimp only at chosen
    by_cases on : (settings.subsystem s').enabled = true
    · rw [if_pos on] at chosen
      cases chosen
      exact ⟨⟨hs, on⟩, rfl⟩
    · rw [if_neg on] at chosen
      cases chosen
  · rintro ⟨⟨hs, on⟩, rfl⟩
    exact ⟨_, ⟨s, hs, rfl⟩, by simp [on]⟩

/-- **The tasks of a run are those of a first part of its plan**, and there are none unless the
storage step has succeeded. -/
theorem purposes_of_history (h : Run.History setup ⟨.starting, w⟩ moves r) :
    ∃ done rest, plan setup.settings setup.env = done ++ rest ∧
      r.world.tasks.map Task.purpose = w.tasks.map Task.purpose ++ done.chosen ∧
      (r.stage.isStored = false → done = []) := by
  induction h with
  | nil => exact ⟨[], _, rfl, (List.append_nil _).symm, fun _ => rfl⟩
  | @concat moves last next action events before made ih =>
      obtain ⟨done, rest, parts, tasks, unstored⟩ := ih
      have step := step_sound made
      by_cases own : action = .act .coordinator
      · subst own
        obtain ⟨stage, world⟩ := last
        cases step with
        | coordinator own =>
            cases own with
            | started leads =>
                exact ⟨done, rest, parts, by rw [leads.tasks]; exact tasks, fun _ => unstored rfl⟩
            | stored | unstored => exact ⟨done, rest, parts, tasks, fun _ => unstored rfl⟩
            | launched =>
                -- the next entry of the plan is launched
                cases Standing.of_history (before.concat made) with
                | launching at_ parts launched =>
                    exact ⟨_, _, parts, launched.tasks, fun open_ => by cases open_⟩
                | starting other | preparing other | watching other | unstored other
                  | failed other | succeeded other => cases other
            | skipped | watched | waited | passed | again | succeeded =>
                exact ⟨done, rest, parts, tasks, fun open_ => by cases open_⟩
            | failed ill means =>
                have stored := (step_sound made).isStored rfl
                exact ⟨done, rest, parts, tasks, fun open_ => by rw [stored] at open_; cases open_⟩
      · have kept := step.keeps own
        refine ⟨done, rest, parts, kept.purposes.trans tasks, ?_⟩
        rw [kept.stage]
        exact unstored

/-- There are no new tasks unless the storage step has succeeded. -/
theorem length_tasks_of_history (h : Run.History setup ⟨.starting, w⟩ moves r)
    (unstored : r.stage.isStored = false) : r.world.tasks.length = w.tasks.length := by
  obtain ⟨done, rest, -, tasks, none_⟩ := purposes_of_history h
  rw [none_ unstored] at tasks
  simpa [Plan.chosen] using congrArg List.length tasks

/-- A task that is there was there before the run, or is planned and was launched after the storage
step has succeeded. -/
theorem purpose_cases (h : Run.History setup ⟨.starting, w⟩ moves r) {id : Nat} {t : Task}
    (found : r.world.tasks[id]? = some t) :
    (id < w.tasks.length ∧ t.subsystem ∈ w.tasks.map Task.subsystem) ∨
      (r.stage.isStored = true ∧ t.purpose ∈ (plan setup.settings setup.env).chosen) := by
  obtain ⟨done, rest, parts, tasks, unstored⟩ := purposes_of_history h
  have at_ : (w.tasks.map Task.purpose ++ done.chosen)[id]? = some t.purpose := by
    rw [← tasks, List.getElem?_map, found, Option.map_some]
  by_cases old : id < w.tasks.length
  · rw [List.getElem?_append_left (by simpa using old), List.getElem?_map,
      Option.map_eq_some_iff] at at_
    obtain ⟨u, there, purpose⟩ := at_
    have same : u.subsystem = t.subsystem := congrArg Prod.fst purpose
    exact .inl ⟨old, same ▸ List.mem_map_of_mem (List.mem_of_getElem? there)⟩
  · rw [List.getElem?_append_right (by simpa using old)] at at_
    have member : t.purpose ∈ done.chosen := List.mem_of_getElem? at_
    refine .inr ⟨?_, ?_⟩
    · cases stored : r.stage.isStored with
      | true => rfl
      | false =>
          rw [unstored stored] at member
          cases member
    · rw [parts, Plan.chosen, List.filterMap_append]
      exact List.mem_append_left _ member

/-- Every task of a run is that of an enabled subsystem, with the path that its own settings give,
and was launched after the storage step has succeeded. -/
theorem purpose_of_history (h : Run.History setup ⟨.starting, w⟩ moves r) {id : Nat} {t : Task}
    (new : w.tasks.length ≤ id) (found : r.world.tasks[id]? = some t) :
    r.stage.isStored = true ∧ t.subsystem ∈ enabled setup.settings ∧
      t.customPath = (setup.settings.subsystem t.subsystem).customPath setup.env := by
  rcases purpose_cases h found with ⟨old, -⟩ | ⟨stored, planned⟩
  · exact absurd old (Nat.not_lt.mpr new)
  · exact ⟨stored, mem_chosen_plan.mp planned⟩

/-- No subsystem has two tasks of a run. -/
theorem eq_of_subsystem_eq (h : Run.History setup ⟨.starting, w⟩ moves r) {i j : Nat} {t u : Task}
    (hi : w.tasks.length ≤ i) (hj : w.tasks.length ≤ j) (ti : r.world.tasks[i]? = some t)
    (uj : r.world.tasks[j]? = some u) (same : t.subsystem = u.subsystem) : i = j := by
  obtain ⟨done, rest, parts, tasks, -⟩ := purposes_of_history h
  have own : (r.world.tasks.drop w.tasks.length).map Task.subsystem = done.chosen.map Prod.fst := by
    have purposes : (r.world.tasks.drop w.tasks.length).map Task.purpose = done.chosen := by
      rw [List.map_drop, tasks]
      exact List.drop_left' (List.length_map _)
    rw [← purposes, List.map_map]
    rfl
  have distinct : ((r.world.tasks.drop w.tasks.length).map Task.subsystem).Nodup := by
    have whole : ((done ++ rest : Plan).chosen.map Prod.fst).Nodup := by
      rw [← parts, map_fst_chosen_plan]
      exact Subsystem.nodup_all.filter _
    rw [Plan.chosen, List.filterMap_append, List.map_append] at whole
    rw [own]
    exact whole.sublist (List.sublist_append_left _ _)
  have place {k : Nat} {v : Task} (hk : w.tasks.length ≤ k) (vk : r.world.tasks[k]? = some v) :
      ((r.world.tasks.drop w.tasks.length).map Task.subsystem)[k - w.tasks.length]? =
        some v.subsystem := by
    rw [List.getElem?_map, List.getElem?_drop, Nat.add_sub_cancel' hk, vk, Option.map_some]
  have there : i - w.tasks.length < ((r.world.tasks.drop w.tasks.length).map
      Task.subsystem).length := (List.getElem?_eq_some_iff.mp (place hi ti)).1
  have equal : i - w.tasks.length = j - w.tasks.length :=
    (List.getElem?_inj there distinct).mp (by rw [place hi ti, place hj uj, same])
  omega

/-- The tasks that have made steps are there. -/
theorem lt_of_mem_history {start : Run} (h : Run.History setup start moves r) :
    ∀ move ∈ moves, ∀ id, move.action = .act (.task id) → id < r.world.tasks.length := by
  induction h with
  | nil => exact List.forall_mem_nil _
  | concat _ made ih =>
      have step := step_sound made
      have longer := step.length_le
      refine forall_mem_concat (fun move hm id own => ?_) fun id own => ?_
      · exact Nat.lt_of_lt_of_le (ih move hm id own) longer
      · cases own
        cases step with
        | task found => exact Nat.lt_of_lt_of_le (List.getElem?_eq_some_iff.mp found).1 longer

end Plan

/-! ## What a run brings about itself -/

/-- Whether a move is not one of the tasks that were there before, given how many there were. -/
def isOwn (known : Nat) (move : Move Run Happening Event) : Bool :=
  match move.action.subject? with
  | some id => decide (known ≤ id)
  | none => true

/-- What activation and the tasks that it has launched bring about, in order. -/
def ownEvents (known : Nat) (moves : Moves) : List Event := eventsOf (moves.filter (isOwn known))

/-- Where there were no tasks before, the own events are all events. -/
theorem ownEvents_zero (moves : Moves) : ownEvents 0 moves = eventsOf moves := by
  have all : ∀ move ∈ moves, isOwn 0 move = true := by
    intro move _
    unfold isOwn
    cases move.action.subject? <;> rfl
  rw [ownEvents, List.filter_eq_self.mpr all]

/-- A move at the end adds its own events. -/
theorem ownEvents_concat {known : Nat} {moves : Moves} {move : Move Run Happening Event}
    (own : isOwn known move = true) :
    ownEvents known (moves ++ [move]) = ownEvents known moves ++ move.events := by
  simp [ownEvents, own]

/-- A move that is no own one, or in which nothing happens, adds nothing. -/
theorem ownEvents_concat_of_silent {known : Nat} {moves : Moves} {move : Move Run Happening Event}
    (silent : isOwn known move = true → move.events = []) :
    ownEvents known (moves ++ [move]) = ownEvents known moves := by
  cases own : isOwn known move with
  | true => rw [ownEvents_concat own, silent own, List.append_nil]
  | false => simp [ownEvents, own]

/-- The first own event stays first when a move is added. -/
theorem head?_ownEvents_concat {known : Nat} {moves : Moves} {e : Event}
    (first : (ownEvents known moves).head? = some e) (move : Move Run Happening Event) :
    (ownEvents known (moves ++ [move])).head? = some e := by
  cases own : isOwn known move with
  | true => rw [ownEvents_concat own, List.head?_append, first, Option.some_or]
  | false => rw [ownEvents_concat_of_silent (by simp [own]), first]

section Step

variable {setup : Setup} {r r' : Run} {h : Happening} {events : List Event} {known : Nat}

/-- Editing rules are set in the first step of activation only. -/
theorem Step.not_isRules (made : Step setup r h r' events)
    (begun : h = .act .coordinator → r.stage ≠ .starting) : ∀ e ∈ events, e.isRules = false := by
  intro e he
  cases made.origin he with
  | rules own at_ => exact absurd at_ (begun own)
  | record _ is | call _ _ is =>
      rw [is]
      rfl
  | item _ _ is => exact (Event.of_item? is).2.1
  | effect _ _ _ is => exact (Act.of_mem_effect is).1

/-- A step of activation creates no status item and calls no activator. -/
theorem Step.quiet_of_coordinator (made : Step setup r (.act .coordinator) r' events) :
    ∀ e ∈ events, e.creates?.isSome = false ∧ e.isCall = false := by
  intro e he
  cases made.origin he with
  | rules _ _ is | record _ is =>
      rw [is]
      exact ⟨rfl, rfl⟩
  | item subject => cases subject
  | call own | effect own => cases own

/-- Nothing happens in an own move that is not one of activation, as long as there are no new tasks.
-/
theorem Step.silent_of_unlaunched (made : Step setup r h r' events) (other : h ≠ .act .coordinator)
    (unlaunched : r.world.tasks.length = known) (own : isOwn known ⟨r, h, r', events⟩ = true) :
    events = [] := by
  have absent {id : Nat} {t : Task} (subject : h.subject? = some id) :
      r.world.tasks[id]? ≠ some t := by
    have new : known ≤ id := by simpa [isOwn, subject] using own
    rw [List.getElem?_eq_none (by omega)]
    exact (Option.some_ne_none t).symm
  rw [List.eq_nil_iff_forall_not_mem]
  intro e he
  cases made.origin he with
  | rules is | record is => exact other is
  | item subject found => exact absent subject found
  | call is found | effect is found => exact absent (by rw [is]; rfl) found

end Step

/-! ## The storage step -/

/-- The move in which the storage directory is made, with its result. -/
structure StorageStep (storage : FilePath) (result : Except IoError Storage.Outcome)
    (move : Move Run Happening Event) : Prop where
  /-- It is a step of activation. -/
  own : move.action = .act .coordinator
  /-- It is the one in which the directory is made. -/
  at_ : ∃ plan, move.source.stage = .preparing plan
  /-- This is what comes of it. -/
  result_eq : (Storage.ensure move.source.world.fs storage).2 = result

/-- What a run itself has brought about until a stage. -/
inductive Beginning (w : World) (moves : Moves) (r : Run) : Prop where
  /-- At first, nothing. -/
  | starting (at_ : r.stage = .starting) (silent : ownEvents w.tasks.length moves = [])
      (rules : (eventsOf moves).filter Event.isRules = [])
  /-- Then the editing rules, and nothing else unless the storage step succeeds. -/
  | unstored (begun : r.stage ≠ .starting) (at_ : r.stage.isStored = false)
      (only : ownEvents w.tasks.length moves = [.host rulesCall])
      (rules : (eventsOf moves).filter Event.isRules = [.host rulesCall])
  /-- Everything else comes after the storage step, which has succeeded. -/
  | stored (at_ : r.stage.isStored = true) {outcome : Storage.Outcome}
      (made : ∃ move ∈ moves, StorageStep w.context.storage (.ok outcome) move)
      (first : (ownEvents w.tasks.length moves).head? = some (.host rulesCall))
      (rules : (eventsOf moves).filter Event.isRules = [.host rulesCall])

/-- The storage directory of a run stays the same. -/
theorem Step.storage_eq {setup : Setup} {r r' : Run} {h : Happening} {events : List Event}
    (made : Step setup r h r' events) :
    r'.world.context.storage = r.world.context.storage := by
  cases made with
  | coordinator own =>
      obtain ⟨stage, world⟩ := r
      cases own with
      | started leads => exact leads.storage
      | stored | unstored | launched | skipped | watched | waited | passed | failed | again
        | succeeded => rfl
  | task _ _ own =>
      obtain ⟨-, -, leads⟩ := own
      exact leads.storage
  | opened | uncancelled => rfl
  | cancelled _ _ leads | late _ _ leads => exact leads.storage

/-- At the end of every history, the storage directory of a run is the one that it started with. -/
theorem storage_of_history {setup : Setup} {w : World} {r : Run} {moves : Moves}
    (h : Run.History setup ⟨.starting, w⟩ moves r) :
    r.world.context.storage = w.context.storage := by
  induction h with
  | nil => rfl
  | concat _ made ih => exact (step_sound made).storage_eq.trans ih

/-- After a storage step that fails, activation has returned that failure. -/
theorem StorageStep.returned {setup : Setup} {storage : FilePath} {cause : IoError}
    {move : Move Run Happening Event} (failed : StorageStep storage (.error cause) move)
    (made : Step setup move.source move.action move.target move.events)
    (same : move.source.world.context.storage = storage) :
    move.target.stage = .returned (.error (.storage storage cause)) := by
  obtain ⟨⟨stage, world⟩, action, target, events⟩ := move
  obtain ⟨rfl, ⟨plan, at_⟩, result⟩ := failed
  cases at_
  subst same
  change Step setup ⟨.preparing plan, world⟩ (.act .coordinator) target events at made
  change (Storage.ensure world.fs world.context.storage).2 = .error cause at result
  cases made with
  | coordinator own =>
      cases own with
      | stored stored =>
          rw [stored] at result
          cases result
      | unstored unstored =>
          rw [unstored] at result
          cases result
          rfl

namespace Beginning

variable {setup : Setup} {w : World} {r r' : Run} {moves : Moves} {h : Happening}
  {events : List Event}

/-- A step that sets no editing rules adds none. -/
theorem filter_isRules_concat (made : Step setup r h r' events)
    (begun : h = .act .coordinator → r.stage ≠ .starting) :
    (eventsOf (moves ++ [⟨r, h, r', events⟩])).filter Event.isRules =
      (eventsOf moves).filter Event.isRules := by
  have none_ : events.filter Event.isRules = [] := by
    rw [List.filter_eq_nil_iff]
    intro e he
    rw [made.not_isRules begun e he]
    exact Bool.false_ne_true
  simp [none_]

/-- Once the storage step has succeeded, a run that goes on has still begun well. -/
theorem concat_stored {outcome : Storage.Outcome} (at_ : r.stage.isStored = true)
    (stored : ∃ move ∈ moves, StorageStep w.context.storage (.ok outcome) move)
    (first : (ownEvents w.tasks.length moves).head? = some (.host rulesCall))
    (rules : (eventsOf moves).filter Event.isRules = [.host rulesCall])
    (made : Step setup r h r' events) : Beginning w (moves ++ [⟨r, h, r', events⟩]) r' := by
  have begun : r.stage ≠ .starting := by
    intro same
    rw [same] at at_
    cases at_
  obtain ⟨move, hm, storing⟩ := stored
  exact .stored (made.isStored at_) ⟨move, List.mem_append_left _ hm, storing⟩
    (head?_ownEvents_concat first _) ((filter_isRules_concat made fun _ => begun).trans rules)

/-- A step that is not one of activation leaves the beginning of a run as it is. -/
theorem keeps (b : Beginning w moves r) (made : Step setup r h r' events)
    (other : h ≠ .act .coordinator)
    (unlaunched : r.stage.isStored = false → r.world.tasks.length = w.tasks.length) :
    Beginning w (moves ++ [⟨r, h, r', events⟩]) r' := by
  have stage : r'.stage = r.stage := (made.keeps other).stage
  have noRules : (eventsOf (moves ++ [⟨r, h, r', events⟩])).filter Event.isRules =
      (eventsOf moves).filter Event.isRules :=
    filter_isRules_concat made fun own => absurd own other
  have same (open_ : r.stage.isStored = false) :
      ownEvents w.tasks.length (moves ++ [⟨r, h, r', events⟩]) = ownEvents w.tasks.length moves :=
    ownEvents_concat_of_silent (made.silent_of_unlaunched other (unlaunched open_))
  cases b with
  | starting at_ silent rules =>
      have open_ : r.stage.isStored = false := by
        rw [at_]
        rfl
      exact .starting (stage.trans at_) ((same open_).trans silent) (noRules.trans rules)
  | unstored begun at_ only rules =>
      exact .unstored (stage ▸ begun) (stage ▸ at_) ((same at_).trans only) (noRules.trans rules)
  | stored at_ stored first rules => exact concat_stored at_ stored first rules made

/-- A step of activation takes the beginning of a run to a beginning. -/
theorem coordinatorStep {stage : Stage} {world : World} (b : Beginning w moves r)
    (own : CoordinatorStep setup r.world r.stage stage world events)
    (storage : r.world.context.storage = w.context.storage) :
    Beginning w (moves ++ [⟨r, .act .coordinator, ⟨stage, world⟩, events⟩]) ⟨stage, world⟩ := by
  have more : ownEvents w.tasks.length (moves ++ [⟨r, .act .coordinator, ⟨stage, world⟩, events⟩]) =
      ownEvents w.tasks.length moves ++ events := ownEvents_concat rfl
  have made : Step setup r (.act .coordinator) ⟨stage, world⟩ events := .coordinator own
  -- how far the run has come says which steps of activation there can be
  cases b with
  | stored at_ stored first rules => exact concat_stored at_ stored first rules made
  | starting at_ silent rules =>
      obtain ⟨before, source⟩ := r
      cases at_
      cases own with
      | started => exact .unstored nofun rfl (by rw [more, silent]; rfl) (by simp [rules]; rfl)
  | unstored begun at_ only rules =>
      have noRules : (eventsOf (moves ++ [⟨r, .act .coordinator, ⟨stage, world⟩, events⟩])).filter
          Event.isRules = (eventsOf moves).filter Event.isRules :=
        filter_isRules_concat made fun _ => begun
      obtain ⟨before, source⟩ := r
      cases own with
      | started => exact absurd rfl begun
      | unstored => exact .unstored nofun rfl (by rw [more, only]; rfl) (noRules.trans rules)
      | @stored plan outcome fs stored =>
          have result : (Storage.ensure source.fs w.context.storage).2 = .ok outcome := by
            rw [← storage, stored]
          refine .stored rfl ⟨_, List.mem_append_right _ (List.mem_singleton_self _),
            ⟨rfl, ⟨plan, rfl⟩, result⟩⟩ ?_ (noRules.trans rules)
          rw [more, only]
          rfl
      | launched | skipped | watched | waited | passed | failed | again | succeeded => cases at_

/-- Every history of a run has a beginning of the one form. -/
theorem of_history (h : Run.History setup ⟨.starting, w⟩ moves r) : Beginning w moves r := by
  induction h with
  | nil => exact .starting rfl rfl rfl
  | @concat moves last next action events before made ih =>
      have step := step_sound made
      by_cases own : action = .act .coordinator
      · subst own
        cases step with
        | coordinator own => exact ih.coordinatorStep own (storage_of_history before)
      · exact ih.keeps step own (length_tasks_of_history before)

end Beginning

section Runs

variable {setup : Setup} {w : World} {r : Run} {moves : Moves} {move : Move Run Happening Event}

/-- Before the storage step has succeeded, the run itself has created no status item and called no
activator. -/
theorem shown_of_stored {before after : Moves}
    (h : Run.History setup ⟨.starting, w⟩ (before ++ move :: after) r)
    (own : isOwn w.tasks.length move = true)
    (shown : ∃ e ∈ move.events, e.creates?.isSome = true ∨ e.isCall = true) :
    ∃ earlier ∈ before, ∃ outcome, StorageStep w.context.storage (.ok outcome) earlier := by
  obtain ⟨e, he, shown⟩ := shown
  obtain ⟨earlier, made, -⟩ := h.split
  have step := step_sound made
  -- activation itself never shows such an event, and before it has stored there is no task to do so
  have impossible (open_ : move.source.stage.isStored = false) : False := by
    by_cases activation : move.action = .act .coordinator
    · obtain ⟨source, action, target, events⟩ := move
      cases activation
      obtain ⟨uncreated, uncalled⟩ := Step.quiet_of_coordinator step e he
      simp [uncreated, uncalled] at shown
    · have silent := step.silent_of_unlaunched activation (length_tasks_of_history earlier open_)
        own
      rw [silent] at he
      cases he
  cases Beginning.of_history earlier with
  | stored _ stored =>
      obtain ⟨storing, hs, stored⟩ := stored
      exact ⟨storing, hs, _, stored⟩
  | starting at_ => exact (impossible (by rw [at_]; rfl)).elim
  | unstored _ at_ => exact (impossible at_).elim

/-- Where the storage step has failed, activation has returned that failure: a run that has returned
stays so. -/
theorem returned_of_failed {cause : IoError}
    (h : Run.History setup ⟨.starting, w⟩ moves r) (hm : move ∈ moves)
    (failed : StorageStep w.context.storage (.error cause) move) :
    r.stage = .returned (.error (.storage w.context.storage cause)) := by
  obtain ⟨⟨before, earlier⟩, made⟩ := h.of_mem hm
  have now := failed.returned (step_sound made) (storage_of_history earlier)
  refine h.keeps_from hm (P := fun r => r.stage = _) now ?_
  intro _ _ _ _ finished made
  exact (step_sound made).returned finished

/-- A run that has returned without having stored has shown the editing rules only. -/
theorem ownEvents_of_returned {result : Except Error Summary}
    (h : Run.History setup ⟨.starting, w⟩ moves r) (returned : r.stage = .returned result)
    (unstored : r.stage.isStored = false) :
    ownEvents w.tasks.length moves = [.host rulesCall] := by
  cases Beginning.of_history h with
  | starting at_ =>
      rw [returned] at at_
      cases at_
  | unstored _ _ only => exact only
  | stored at_ =>
      rw [unstored] at at_
      cases at_

end Runs

/-- **A run sets the editing rules first and once, and makes the storage directory before anything
else**: no status item is created and no activator is called before that has succeeded, and where it
fails, activation returns that failure, and nothing else has happened. -/
theorem rules_then_storage_then_tasks {setup : Setup} {w : World} {r : Run} {moves : Moves}
    (h : Run.History setup ⟨.starting, w⟩ moves r) :
    (r.stage = .starting → ownEvents w.tasks.length moves = []) ∧
    (r.stage ≠ .starting →
      (ownEvents w.tasks.length moves).head? = some (.host rulesCall) ∧
      (eventsOf moves).filter Event.isRules = [.host rulesCall]) ∧
    (∀ before move after, moves = before ++ move :: after → isOwn w.tasks.length move = true →
      (∃ e ∈ move.events, e.creates?.isSome = true ∨ e.isCall = true) →
        ∃ earlier ∈ before, ∃ outcome, StorageStep w.context.storage (.ok outcome) earlier) ∧
    (∀ move ∈ moves, ∀ cause, StorageStep w.context.storage (.error cause) move →
      r.stage = .returned (.error (.storage w.context.storage cause)) ∧
      r.world.tasks.length = w.tasks.length ∧
      ownEvents w.tasks.length moves = [.host rulesCall]) := by
  -- where the run stands says what has happened before
  have begun := Beginning.of_history h
  refine ⟨?_, ?_, ?_, ?_⟩
  · intro at_
    cases begun with
    | starting _ silent => exact silent
    | unstored other => exact absurd at_ other
    | stored other =>
        rw [at_] at other
        cases other
  · intro later
    cases begun with
    | starting at_ => exact absurd at_ later
    | unstored _ _ only rules => exact ⟨by rw [only]; rfl, rules⟩
    | stored _ _ first rules => exact ⟨first, rules⟩
  · rintro before move after rfl own shown
    exact shown_of_stored h own shown
  · intro move hm cause failed
    have returned := returned_of_failed h hm failed
    have unstored : r.stage.isStored = false := by
      rw [returned]
      rfl
    exact ⟨returned, length_tasks_of_history h unstored, ownEvents_of_returned h returned unstored⟩

/-- The debug adapter is disabled. -/
def serverOnly : Setup where
  activators := fun _ _ _ => ⟨false, [], .succeed⟩
  settings := ⟨.initial, ⟨false, "", []⟩, none⟩
  env := ⟨[]⟩

/-- Without the directory above the storage directory, the editing rules are all that is seen:
nothing is launched, and nothing is skipped. -/
theorem rules_then_storage_then_tasks_lost :
    ∃ moves r, Run.History serverOnly lostRun moves r ∧
      r.stage = .returned (.error (.storage (.ofString "/lost/storage") .notFound)) ∧
      r.world.tasks = [] ∧ eventsOf moves = [.host rulesCall] := by
  obtain ⟨moves, r, move, history, hm, failed⟩ : ∃ moves r move,
      Run.History serverOnly lostRun moves r ∧ move ∈ moves ∧
        StorageStep (.ofString "/lost/storage") (.error .notFound) move :=
    ⟨_, _, _, .of_actions _ _ (List.replicate 2 (.act .coordinator)),
      List.mem_cons_of_mem _ (List.mem_singleton_self _), rfl, ⟨_, rfl⟩, rfl⟩
  obtain ⟨returned, tasks, events⟩ :=
    (rules_then_storage_then_tasks history).2.2.2 move hm .notFound failed
  exact ⟨moves, r, history, returned, List.eq_nil_of_length_eq_zero tasks,
    (ownEvents_zero moves).symm.trans events⟩

end ToolingHost.Activation
