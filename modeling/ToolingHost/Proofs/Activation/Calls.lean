import ToolingHost.Proofs.Activation.Beginning

/-! # Calls of activators

The activator of a subsystem is called by the task of that subsystem, in its fourth step, unless the
host breaks down before that or the task is cancelled. `Course` says how far a task has come towards
the call and which calls of that activator have been made; every step takes it further
(`Wired.step`), so that there is one call where the task has got to run, and none otherwise
(`calls_of_history`). -/

namespace ToolingHost.Activation

/-! ## What moves show of calls -/

/-- The path with which an event calls the activator of a subsystem, if it does. -/
def Event.callOf? (s : Subsystem) : Event → Option (Option FilePath)
  | .called subsystem path _ => if subsystem = s then some path else none
  | _ => none

/-- The paths with which a run itself has called the activator of a subsystem, in order. -/
def callsOf (known : Nat) (s : Subsystem) (moves : Moves) : List (Option FilePath) :=
  (ownEvents known moves).filterMap (Event.callOf? s)

/-- How many steps a task has made. -/
def turnsOf (id : Nat) (moves : Moves) : Nat :=
  moves.countP fun move => decide (move.action = .act (.task id))

/-- In this step of a task, the host breaks down in a call before the activator is called. -/
def Hindrance (id : Nat) (move : Move Run Happening Event) : Prop :=
  move.action = .act (.task id) ∧ ∃ t, move.source.world.tasks[id]? = some t ∧
    t.scope.Hindered move.source.world.context.host

section Calls

variable {setup : Setup} {activators : Activators} {w : World} {r r' : Run} {moves : Moves}
  {h : Happening} {events : List Event} {t : Task} {id known spent : Nat}
  {scope : Scope Body Result} {s : Subsystem}

/-- Other events call nobody. -/
theorem filterMap_callOf?_eq_nil (quiet : ∀ e ∈ events, e.isCall = false) :
    events.filterMap (Event.callOf? s) = [] := by
  rw [List.filterMap_eq_nil_iff]
  intro e he
  have silent := quiet e he
  cases e with
  | called => cases silent
  | host | marked | started | disposed | logged => rfl

/-- A step of a task calls its activator, with its path, if that is next, and nobody else. -/
theorem Turn.calls (turn : Turn activators w t events spent scope) :
    events.filterMap (Event.callOf? s) =
      if t.scope.phase.readiness? = some 3 ∧ t.subsystem = s then [t.customPath] else [] := by
  -- in every phase but `shown`, a step calls nobody
  have quiet {phase : Scope.Phase Body Result} (at_ : t.scope.phase = phase)
      (other : phase ≠ .shown) (silent : ∀ e ∈ events, e.isCall = false) :
      events.filterMap (Event.callOf? s) =
        if t.scope.phase.readiness? = some 3 ∧ t.subsystem = s then [t.customPath] else [] := by
    have early : t.scope.phase.readiness? ≠ some 3 := by
      rw [at_]
      exact Scope.Phase.readiness?_ne_three other
    rw [filterMap_callOf?_eq_nil silent, if_neg fun both => early both.1]
  cases turn with
  | @around calls _ _ own =>
      have silent : ∀ e ∈ calls.map Event.host, e.isCall = false := by
        intro e he
        obtain ⟨call, -, rfl⟩ := List.mem_map.mp he
        rfl
      cases own with
      | created at_ | uncreated at_ | labelled at_ | unlabelled at_ | shown at_ | unshown at_
        | disposed at_ | undisposed at_ =>
          exact quiet at_ (fun same => by cases same) silent
  | called at_ | uncalled at_ =>
      by_cases own : t.subsystem = s <;> simp [Event.callOf?, at_, Scope.Phase.readiness?, own]
  | updated at_ | unupdated at_ =>
      exact quiet at_ (fun same => by cases same) (by simp [texting, Event.isCall])
  | acted at_ _ unrelated =>
      exact quiet at_ (fun same => by cases same) fun e he => (unrelated e he).2
  | ended at_ => exact quiet at_ (fun same => by cases same) (by simp)

/-- A step before the call brings a task nearer to it, unless the host breaks down; the call is the
fourth step. -/
theorem Turn.readiness {n : Nat} (turn : Turn activators w t events spent scope)
    (at_ : t.scope.phase.readiness? = some n) :
    (n = 3 ∧ ¬t.scope.Hindered w.context.host ∧ scope.phase.isCalled = true) ∨
      (n < 3 ∧ ((¬t.scope.Hindered w.context.host ∧ scope.phase.readiness? = some (n + 1)) ∨
        (t.scope.Hindered w.context.host ∧
          (scope.phase = .closing none ∨ scope.phase = .closed none)))) := by
  cases turn with
  | around own => exact .inr (own.readiness at_)
  | called here | uncalled here =>
      rw [here] at at_
      cases at_
      have well : ¬t.scope.Hindered w.context.host := by
        apply Scope.not_hindered
        intro call next
        simp only [Scope.preparing?, here] at next
        cases next
      exact .inl ⟨rfl, well, rfl⟩
  | updated here | unupdated here | acted here | ended here =>
      rw [here] at at_
      cases at_

/-- What is no step of a task calls nobody. -/
theorem Step.uncalled (made : Step setup r h r' events) (other : ∀ id, h ≠ .act (.task id)) :
    ∀ e ∈ events, e.isCall = false := by
  intro e he
  cases made.origin he with
  | rules _ _ is | record _ is =>
      rw [is]
      rfl
  | item _ _ is => exact (Event.of_item? is).1
  | call own | effect own => exact absurd own (other _)

/-- A move in which nobody is called adds no call. -/
theorem callsOf_concat_of_quiet {move : Move Run Happening Event}
    (quiet : move.events.filterMap (Event.callOf? s) = []) :
    callsOf known s (moves ++ [move]) = callsOf known s moves := by
  unfold callsOf
  cases own : isOwn known move with
  | true => rw [ownEvents_concat own, List.filterMap_append, quiet, List.append_nil]
  | false => rw [ownEvents_concat_of_silent (by simp [own])]

/-- An own move adds its calls. -/
theorem callsOf_concat {move : Move Run Happening Event} (own : isOwn known move = true) :
    callsOf known s (moves ++ [move]) =
      callsOf known s moves ++ move.events.filterMap (Event.callOf? s) := by
  rw [callsOf, ownEvents_concat own, List.filterMap_append]
  rfl

/-- Steps are counted. -/
theorem turnsOf_concat {move : Move Run Happening Event} :
    turnsOf id (moves ++ [move]) =
      turnsOf id moves + if move.action = .act (.task id) then 1 else 0 := by
  simp [turnsOf, List.countP_append, List.countP_singleton]

/-- A step of a task adds the call of its activator if that is next. -/
theorem Turn.callsOf_concat (turn : Turn activators r.world t events spent scope)
    (new : known ≤ id) :
    callsOf known t.subsystem (moves ++ [⟨r, .act (.task id), r', events⟩]) =
      callsOf known t.subsystem moves ++
        if t.scope.phase.readiness? = some 3 then [t.customPath] else [] := by
  have own : isOwn known ⟨r, .act (.task id), r', events⟩ = true := decide_eq_true new
  rw [Activation.callsOf_concat own, turn.calls]
  simp

/-- A step of a task is a hindrance exactly if the host breaks down in its next call. -/
theorem hindrance_iff (found : r.world.tasks[id]? = some t) :
    Hindrance id ⟨r, .act (.task id), r', events⟩ ↔ t.scope.Hindered r.world.context.host := by
  constructor
  · rintro ⟨-, u, same, hindered⟩
    rw [found] at same
    cases same
    exact hindered
  · intro hindered
    exact ⟨rfl, t, found, hindered⟩

/-! ## The course of a task -/

/-- How far a task has come towards the call of its activator, and what calls of the activator of
its subsystem have been made. -/
inductive Course (known : Nat) (moves : Moves) (id : Nat) (t : Task) : Prop where
  /-- It has made some of the steps before the call. -/
  | ready {n : Nat} (at_ : t.scope.phase.readiness? = some n) (turns : turnsOf id moves = n)
      (free : ∀ move ∈ moves, ¬Hindrance id move)
      (uncalled : callsOf known t.subsystem moves = [])
  /-- It has made the call. -/
  | called (past : t.scope.phase.isCalled = true) (turns : 4 ≤ turnsOf id moves)
      (free : ∀ move ∈ moves, ¬Hindrance id move)
      (once : callsOf known t.subsystem moves = [t.customPath])
  /-- The host has broken down before the call. -/
  | hindered (broken : t.scope.phase = .closing none ∨ t.scope.phase = .closed none)
      (hindrance : ∃ move ∈ moves, Hindrance id move)
      (uncalled : callsOf known t.subsystem moves = [])
  /-- It was cancelled before the call. -/
  | cancelled (settled : t.settled? ≠ none) (turns : turnsOf id moves ≤ 3)
      (uncalled : callsOf known t.subsystem moves = [])

namespace Course

/-- What is not a step of the task, and calls no activator of its subsystem, leaves it where it is.
-/
theorem idle {move : Move Run Happening Event} (course : Course known moves id t)
    (other : move.action ≠ .act (.task id))
    (quiet : callsOf known t.subsystem (moves ++ [move]) = callsOf known t.subsystem moves) :
    Course known (moves ++ [move]) id t := by
  have turns : turnsOf id (moves ++ [move]) = turnsOf id moves := by
    rw [turnsOf_concat, if_neg other, Nat.add_zero]
  have now : ¬Hindrance id move := fun hindrance => other hindrance.1
  cases course with
  | ready at_ made free uncalled =>
      exact .ready at_ (turns.trans made) (forall_mem_concat free now) (quiet.trans uncalled)
  | called past made free once =>
      exact .called past (turns ▸ made) (forall_mem_concat free now) (quiet.trans once)
  | hindered broken hindrance uncalled =>
      exact .hindered broken (exists_mem_concat hindrance) (quiet.trans uncalled)
  | cancelled settled made uncalled =>
      exact .cancelled settled (turns ▸ made) (quiet.trans uncalled)

/-- A step of the task takes it further. -/
theorem turned (course : Course known moves id t) (new : known ≤ id)
    (found : r.world.tasks[id]? = some t) (unsettled : t.settled? = none)
    (turn : Turn activators r.world t events spent scope) :
    Course known (moves ++ [⟨r, .act (.task id), r', events⟩]) id { t with scope } := by
  have turns : turnsOf id (moves ++ [⟨r, .act (.task id), r', events⟩]) = turnsOf id moves + 1 := by
    rw [turnsOf_concat, if_pos rfl]
  have calls : callsOf known t.subsystem (moves ++ [⟨r, .act (.task id), r', events⟩]) =
      callsOf known t.subsystem moves ++
        if t.scope.phase.readiness? = some 3 then [t.customPath] else [] :=
    turn.callsOf_concat new
  have hindrance : Hindrance id ⟨r, .act (.task id), r', events⟩ ↔
      t.scope.Hindered r.world.context.host := hindrance_iff found
  -- the call comes after three steps, which go well unless the host breaks down
  cases course with
  | @ready n at_ made free uncalled =>
      rw [at_, uncalled, List.nil_append] at calls
      rcases turn.readiness at_ with ⟨rfl, well, past⟩ | ⟨few, step⟩
      · rw [if_pos rfl] at calls
        exact .called past (by omega) (forall_mem_concat free (mt hindrance.mp well)) calls
      · have early : some n ≠ some 3 := by
          intro same
          cases same
          exact absurd few (Nat.lt_irrefl 3)
        rw [if_neg early] at calls
        rcases step with ⟨well, next⟩ | ⟨hindered, broken⟩
        · exact .ready next (by omega) (forall_mem_concat free (mt hindrance.mp well)) calls
        · exact .hindered broken (exists_mem_last (hindrance.mpr hindered)) calls
  | called past made free once =>
      have unhindered : ¬t.scope.Hindered r.world.context.host := by
        intro hindered
        rw [hindered.isCalled] at past
        cases past
      rw [Scope.Phase.readiness?_of_isCalled past, if_neg (Option.some_ne_none 3).symm,
        List.append_nil, once] at calls
      exact .called (turn.stays_called past) (by omega)
        (forall_mem_concat free (mt hindrance.mp unhindered)) calls
  | hindered broken earlier uncalled =>
      rcases broken with closing | closed
      · rw [closing, uncalled] at calls
        exact .hindered (.inr (turn.of_closing_none closing).1) (exists_mem_concat earlier) calls
      · -- a task whose scope is closed makes no step
        have unclosed := (settled?_eq_none_iff.mp unsettled).2
        rw [closed] at unclosed
        cases unclosed
  | cancelled settled => exact absurd unsettled settled

/-- A task that is cancelled goes no further. -/
theorem cancel {entry : StatusEntry} {move : Move Run Happening Event}
    (course : Course known moves id t) (unsettled : t.settled? = none)
    (other : move.action ≠ .act (.task id))
    (quiet : callsOf known t.subsystem (moves ++ [move]) = callsOf known t.subsystem moves) :
    Course known (moves ++ [move]) id
      { t with scope := ⟨entry, .closed none⟩, cancelled := true } := by
  cases course.idle other quiet with
  | ready at_ turns _ uncalled =>
      exact .cancelled (Option.some_ne_none _) (turns ▸ Scope.Phase.readiness_le at_) uncalled
  | called _ turns free once => exact .called rfl turns free once
  | hindered _ hindrance uncalled => exact .hindered (.inr rfl) hindrance uncalled
  | cancelled settled => exact absurd unsettled settled

end Course

/-- A step of no task of a subsystem adds no call of its activator. -/
theorem Step.callsOf_concat (made : Step setup r h r' events)
    (other : ∀ j t, h = .act (.task j) → known ≤ j → r.world.tasks[j]? = some t → t.subsystem ≠ s) :
    callsOf known s (moves ++ [⟨r, h, r', events⟩]) = callsOf known s moves := by
  by_cases turn : ∃ j, h = .act (.task j)
  · obtain ⟨j, rfl⟩ := turn
    by_cases new : known ≤ j
    · cases made with
      | @task _ t _ _ found _ own =>
          obtain ⟨turn, -, -⟩ := own
          apply callsOf_concat_of_quiet
          rw [turn.calls, if_neg fun both => other j t rfl new found both.2]
    · have foreign : isOwn known ⟨r, .act (.task j), r', events⟩ = false := decide_eq_false new
      unfold callsOf
      rw [ownEvents_concat_of_silent fun own => by rw [foreign] at own; cases own]
  · apply callsOf_concat_of_quiet
    apply filterMap_callOf?_eq_nil
    exact made.uncalled fun j own => turn ⟨j, own⟩

/-- A task that is there stays there, launched for the same. -/
theorem Step.purpose_eq (made : Step setup r h r' events) (found : r.world.tasks[id]? = some t) :
    ∃ t', r'.world.tasks[id]? = some t' ∧ t'.purpose = t.purpose := by
  have there : id < r.world.tasks.length := (List.getElem?_eq_some_iff.mp found).1
  obtain ⟨t', after⟩ : ∃ t', r'.world.tasks[id]? = some t' :=
    ⟨_, List.getElem?_eq_getElem (Nat.lt_of_lt_of_le there made.length_le)⟩
  refine ⟨t', after, ?_⟩
  cases made.change after with
  | launched new => exact absurd there (by omega)
  | same before | spared before | late before | turned before | cancelled before =>
      rw [found] at before
      cases before
      rfl

end Calls

/-! ## All tasks of a run -/

/-- How far all tasks of a run have come, and that nobody else calls an activator. -/
structure Wired (w : World) (moves : Moves) (r : Run) : Prop where
  /-- Every task has its course. -/
  courses : ∀ id t, w.tasks.length ≤ id → r.world.tasks[id]? = some t →
    Course w.tasks.length moves id t
  /-- The activator of a subsystem without a task is not called. -/
  idle : ∀ s, (∀ id t, w.tasks.length ≤ id → r.world.tasks[id]? = some t → t.subsystem ≠ s) →
    callsOf w.tasks.length s moves = []

namespace Wired

variable {setup : Setup} {w : World} {r r' : Run} {moves : Moves} {h : Happening}
  {events : List Event}

/-- A task that is not there yet has made no step. -/
theorem unmoved (before : Run.History setup ⟨.starting, w⟩ moves r) :
    turnsOf r.world.tasks.length moves = 0 ∧
      ∀ move ∈ moves, ¬Hindrance r.world.tasks.length move := by
  have elsewhere : ∀ move ∈ moves, move.action ≠ .act (.task r.world.tasks.length) := by
    intro move hm own
    exact Nat.lt_irrefl _ (lt_of_mem_history before move hm _ own)
  constructor
  · rw [turnsOf, List.countP_eq_zero]
    intro move hm own
    exact elsewhere move hm (of_decide_eq_true own)
  · intro move hm hindrance
    exact elsewhere move hm hindrance.1

/-- A task that is launched is at the start of its course: nobody has called its activator, because
its subsystem has no other task. -/
theorem course_launched {s : Subsystem} {path : Option FilePath} (wired : Wired w moves r)
    (before : Run.History setup ⟨.starting, w⟩ moves r)
    (made : r.happen? setup (.act .coordinator) = some (r', events))
    (new : w.tasks.length ≤ r.world.tasks.length)
    (found : r'.world.tasks[r.world.tasks.length]? = some (.fresh s path)) :
    Course w.tasks.length (moves ++ [⟨r, .act .coordinator, r', events⟩]) r.world.tasks.length
      (.fresh s path) := by
  have step := step_sound made
  obtain ⟨turns, free⟩ := unmoved before
  have alone : ∀ j u, w.tasks.length ≤ j → r.world.tasks[j]? = some u → u.subsystem ≠ s := by
    intro j u hj uj same
    obtain ⟨u', uj', purpose⟩ := step.purpose_eq uj
    have same' : u'.subsystem = s := (congrArg Prod.fst purpose).trans same
    have here : j = r.world.tasks.length :=
      eq_of_subsystem_eq (before.concat made) hj new uj' found same'
    have there : j < r.world.tasks.length := (List.getElem?_eq_some_iff.mp uj).1
    omega
  have uncalled :
      callsOf w.tasks.length s (moves ++ [⟨r, .act .coordinator, r', events⟩]) = [] := by
    rw [step.callsOf_concat fun j u own => by cases own]
    exact wired.idle s alone
  refine .ready rfl ?_ (forall_mem_concat free fun hindrance => ?_) uncalled
  · rw [turnsOf_concat, turns, if_neg fun own => by cases own]
  · cases hindrance.1

/-- A step of a run leaves its tasks wired. -/
theorem step (wired : Wired w moves r) (before : Run.History setup ⟨.starting, w⟩ moves r)
    (made : r.happen? setup h = some (r', events)) :
    Wired w (moves ++ [⟨r, h, r', events⟩]) r' := by
  have step := step_sound made
  -- a step of one task calls no activator of another, which has another subsystem
  have quiet {id : Nat} {t : Task} (new : w.tasks.length ≤ id)
      (found : r.world.tasks[id]? = some t) (other : h ≠ .act (.task id)) :
      callsOf w.tasks.length t.subsystem (moves ++ [⟨r, h, r', events⟩]) =
        callsOf w.tasks.length t.subsystem moves := by
    apply step.callsOf_concat
    rintro j u rfl hj uj same
    exact other (by rw [eq_of_subsystem_eq before hj new uj found same])
  refine ⟨fun id t' new found' => ?_, fun s none_ => ?_⟩
  · cases step.change found' with
    | launched last =>
        subst last
        exact wired.course_launched before made new found'
    | same found elsewhere =>
        have other : h ≠ .act (.task id) := by
          rintro rfl
          exact elsewhere rfl
        exact (wired.courses id _ new found).idle other (quiet new found other)
    | turned found unsettled turn =>
        exact (wired.courses id _ new found).turned new found unsettled turn
    | cancelled found unsettled =>
        exact (wired.courses id _ new found).cancel unsettled nofun (quiet new found nofun)
    | spared found | late found =>
        exact (wired.courses id _ new found).idle nofun (quiet new found nofun)
  · have before_ : ∀ id t, w.tasks.length ≤ id → r.world.tasks[id]? = some t → t.subsystem ≠ s := by
      intro id t new found same
      obtain ⟨t', found', purpose⟩ := step.purpose_eq found
      exact none_ id t' new found' ((congrArg Prod.fst purpose).trans same)
    rw [step.callsOf_concat fun j u _ => before_ j u]
    exact wired.idle s before_

/-- At the end of every history of a run, its tasks have called their activators as `Wired` says. -/
theorem of_history (h : Run.History setup ⟨.starting, w⟩ moves r) : Wired w moves r := by
  induction h with
  | nil =>
      refine ⟨fun id t new found => ?_, fun _ _ => rfl⟩
      rw [List.getElem?_eq_none new] at found
      cases found
  | concat before made ih => exact ih.step before made

end Wired

/-- The task of a subsystem has got to run: it has made the four steps up to the call of its
activator, and the host has not broken down in them. -/
structure GotToRun (known : Nat) (moves : Moves) (r : Run) (s : Subsystem) : Prop where
  /-- There is such a task. -/
  task : ∃ id t, known ≤ id ∧ r.world.tasks[id]? = some t ∧ t.subsystem = s ∧
    4 ≤ turnsOf id moves ∧ ∀ move ∈ moves, ¬Hindrance id move

/-- **The activator of a subsystem is called once, with the path that the subsystem's own settings
give, when its task has got to run, and never otherwise.** -/
theorem calls_of_history {setup : Setup} {w : World} {r : Run} {moves : Moves}
    (h : Run.History setup ⟨.starting, w⟩ moves r) (s : Subsystem) :
    (callsOf w.tasks.length s moves = [] ∧ ¬GotToRun w.tasks.length moves r s) ∨
      (callsOf w.tasks.length s moves = [(setup.settings.subsystem s).customPath setup.env] ∧
        s ∈ enabled setup.settings ∧ r.stage.isStored = true ∧
        GotToRun w.tasks.length moves r s) := by
  have wired := Wired.of_history h
  by_cases task : ∃ id t, w.tasks.length ≤ id ∧ r.world.tasks[id]? = some t ∧ t.subsystem = s
  · obtain ⟨id, t, new, found, rfl⟩ := task
    -- a task of the subsystem that has got to run is this one
    have only (ran : GotToRun w.tasks.length moves r t.subsystem) :
        4 ≤ turnsOf id moves ∧ ∀ move ∈ moves, ¬Hindrance id move := by
      obtain ⟨j, u, hj, uj, same, turns, free⟩ := ran
      rw [eq_of_subsystem_eq h new hj found uj same.symm]
      exact ⟨turns, free⟩
    cases wired.courses id t new found with
    | ready at_ turns _ uncalled =>
        refine .inl ⟨uncalled, fun ran => ?_⟩
        have few := Scope.Phase.readiness_le at_
        have many := (only ran).1
        omega
    | called _ turns free once =>
        obtain ⟨stored, wanted, path⟩ := purpose_of_history h new found
        exact .inr ⟨path ▸ once, wanted, stored, ⟨id, t, new, found, rfl, turns, free⟩⟩
    | hindered _ hindrance uncalled =>
        refine .inl ⟨uncalled, fun ran => ?_⟩
        obtain ⟨move, hm, hindrance⟩ := hindrance
        exact (only ran).2 move hm hindrance
    | cancelled _ few uncalled =>
        refine .inl ⟨uncalled, fun ran => ?_⟩
        have many := (only ran).1
        omega
  · have none_ : ∀ id t, w.tasks.length ≤ id → r.world.tasks[id]? = some t → t.subsystem ≠ s :=
      fun id t new found same => task ⟨id, t, new, found, same⟩
    refine .inl ⟨wired.idle s none_, ?_⟩
    rintro ⟨id, t, new, found, same, -⟩
    exact none_ id t new found same

end ToolingHost.Activation
