import ToolingHost.Proofs.Activation.Beginning
import ToolingHost.Proofs.Activation.Conduct

/-! # What a task has done

The deeds of a task in a run are read off its moves (`deedsOf`): the messages that it sets, the
subscriptions that the context has gained in them, and the registrations that the host has seen.
They are a first part of those of its activator, called with the file system of the run, and all of
them once the activator has ended (`Task.HasDone`): a step of the task does the next act, and what
anybody else does is no deed of it. -/

namespace ToolingHost

/-! ## What a context gains -/

/-- The subscriptions that there are now and were not before. -/
def Subscriptions.gained (before now : Subscriptions) : List Subscription :=
  (now.live.drop before.count).map Prod.snd

/-- Subscriptions that are added come last. -/
theorem Subscriptions.map_live_foldl_push (s : Subscriptions) (added : List Subscription) :
    (added.foldl push s).live.map Prod.snd = s.live.map Prod.snd ++ added := by
  induction added generalizing s with
  | nil => simp
  | cons first rest ih =>
      rw [List.foldl_cons, ih]
      simp [push]

/-- Subscriptions that are added are gained. -/
theorem Subscriptions.gained_foldl_push (s : Subscriptions) (added : List Subscription) :
    s.gained (added.foldl push s) = added := by
  rw [gained, List.map_drop, map_live_foldl_push]
  exact List.drop_left' (by simp [count])

namespace Activation

/-! ## What moves show of deeds -/

/-- The registration that an event shows. -/
def Event.registration? : Event → Option DebugAdapter.Registration
  | .host (.registerDebugAdapter registration) => some registration
  | _ => none

/-- What others see of a task in a move. -/
def deedsBy (id : Nat) (move : Move Run Happening Event) : Deeds :=
  if move.action = .act (.task id) then
    ⟨((move.source.world.tasks[id]?).bind Task.message?).toList,
      move.source.world.context.subscriptions.gained move.target.world.context.subscriptions,
      move.events.filterMap Event.registration?⟩
  else .none

/-- What others see of a task, in order. -/
def deedsOf (id : Nat) : Moves → Deeds
  | [] => .none
  | move :: rest => deedsBy id move ++ deedsOf id rest

/-- What is seen of a task in its next step. -/
def Task.next (t : Task) : Deeds := .ofActs (t.acts.take 1)

/-- What the activator of a task has returned, if it has. -/
def Task.returned? (t : Task) : Option Result :=
  match t.scope.phase with
  | .closing result | .closed result => result
  | _ => none

/-- The task has then ended, or its status item is left to be disposed of. -/
theorem Task.returned?_eq_some_iff {t : Task} {r : Result} :
    t.returned? = some r ↔
      t.scope.phase = .closing (some r) ∨ t.scope.phase = .closed (some r) := by
  unfold returned?
  cases t.scope.phase with
  | closing result | closed result => simp
  | fresh | created | labelled | shown | running => simp

/-- One more move adds what is seen in it. -/
theorem deedsOf_concat (id : Nat) (moves : Moves) (move : Move Run Happening Event) :
    deedsOf id (moves ++ [move]) = deedsOf id moves ++ deedsBy id move := by
  induction moves with
  | nil => simp [deedsOf]
  | cons first rest ih =>
      rw [List.cons_append, deedsOf, deedsOf, ih, Deeds.append_assoc]

/-- A task that has made no step has done nothing. -/
theorem deedsOf_eq_none {id : Nat} {moves : Moves}
    (unmoved : ∀ move ∈ moves, move.action ≠ .act (.task id)) : deedsOf id moves = .none := by
  induction moves with
  | nil => rfl
  | cons first rest ih =>
      obtain ⟨other, others⟩ := List.forall_mem_cons.mp unmoved
      rw [deedsOf, deedsBy, if_neg other, ih others, Deeds.none_append]

section Step

variable {activators : Activators} {w w' : World} {id spent : Nat} {t : Task} {a : Act}
  {rest : List Act} {ending : Ending} {events : List Event} {scope : Scope Body Result}

/-! ## What is seen of a step -/

/-- While the activator of a task runs, its next act is what is seen next. -/
theorem Task.next_of_running (at_ : t.scope.phase = .running ⟨a :: rest, ending⟩) :
    t.next = .ofActs [a] := by
  rw [next, acts, at_]
  rfl

/-- While there is no next act, nothing is. -/
theorem Task.next_of_acts_eq_nil (still : t.acts = []) : t.next = .none := by
  rw [next, still]
  rfl

/-- There is none in a step around the call of the activator. -/
theorem acts_eq_nil_of_advance {host : Host} {s' : Scope Body Result} {calls : List HostCall}
    (own : Scope.Advance host t.scope calls spent s') : t.acts = [] := by
  cases own with
  | created at_ | uncreated at_ | labelled at_ | unlabelled at_ | shown at_ | unshown at_
    | disposed at_ | undisposed at_ => rw [Task.acts, at_]

/-- The message that a task sets is seen. -/
theorem toList_message? (t : Task) : t.message?.toList = t.next.messages := by
  cases at_ : t.scope.phase with
  | fresh | created | labelled | shown | closing | closed =>
      rw [Task.next_of_acts_eq_nil (by rw [Task.acts, at_]), Task.message?, at_]
      rfl
  | running body =>
      rcases body with ⟨_ | ⟨a, rest⟩, ending⟩
      · rw [Task.next, Task.acts, Task.message?, at_]
        rfl
      · rw [Task.next_of_running at_, Task.message?, at_]
        cases a <;> rfl

/-- No registration is seen where things happen to status items. -/
theorem filterMap_registration?_eq_nil (about : ∀ e ∈ events, ∃ item, e.item? = some item) :
    events.filterMap Event.registration? = [] := by
  rw [List.filterMap_eq_nil_iff]
  intro e he
  obtain ⟨item, is⟩ := about e he
  unfold Event.item? at is
  split at is
  · rfl
  · rfl
  · rfl
  · rfl
  · cases is

/-- Setting a message is about the status item of the task. -/
theorem exists_item?_of_texting {entry : StatusEntry} {message : String} :
    ∀ e ∈ texting entry message, ∃ item, e.item? = some item := by
  intro e he
  obtain ⟨item, -, rfl⟩ := List.mem_map.mp he
  exact ⟨item, rfl⟩

/-- The registration that a task makes is seen. -/
theorem Turn.registrations (turn : Turn activators w t events spent scope) :
    events.filterMap Event.registration? = t.next.registrations := by
  cases turn with
  | around own =>
      rw [Task.next_of_acts_eq_nil (acts_eq_nil_of_advance own)]
      exact filterMap_registration?_eq_nil fun e he => exists_item?_of_advance own he
  | called at_ | uncalled at_ =>
      rw [Task.next_of_acts_eq_nil (by rw [Task.acts, at_])]
      rfl
  | updated at_ | unupdated at_ =>
      rw [Task.next_of_running at_]
      exact filterMap_registration?_eq_nil exists_item?_of_texting
  | @acted a _ _ _ _ at_ other _ effect =>
      rw [Task.next_of_running at_, effect]
      cases a <;> rfl
  | ended at_ =>
      rw [Task.next, Task.acts, at_]
      rfl

/-- An act adds its subscription, if it has one. -/
theorem World.subscriptions_of_act? (at_ : t.scope.phase = .running ⟨a :: rest, ending⟩)
    (made : w.act? id t a rest ending = some (w', events)) :
    w'.context.subscriptions =
      t.next.subscriptions.foldl Subscriptions.push w.context.subscriptions := by
  rw [Task.next_of_running at_]
  cases a with
  | update message =>
      obtain ⟨well, updates⟩ := w.update_cases t.scope.entry message
      cases well with
      | true =>
          simp only [act?, updates, Option.some.injEq, Prod.mk.injEq] at made
          obtain ⟨rfl, -⟩ := made
          rfl
      | false =>
          simp only [act?, updates, Option.some.injEq, Prod.mk.injEq] at made
          obtain ⟨rfl, -⟩ := made
          rfl
  | wait | meeting =>
      simp only [act?] at made
      split at made
      · cases made
        rfl
      · cases made
  | mark | openGate | meet | subscribe | keep | register | start | log =>
      cases made
      rfl

/-- A step of a task adds the subscriptions of its next act, and no others. -/
theorem World.subscriptions_of_stepTask? (found : w.tasks[id]? = some t)
    (made : w.stepTask? activators id = some (w', events)) :
    w'.context.subscriptions =
      t.next.subscriptions.foldl Subscriptions.push w.context.subscriptions := by
  unfold stepTask? at made
  simp only [found] at made
  split at made
  · cases made
  · cases at_ : t.scope.phase with
    | closed =>
        rw [at_] at made
        cases made
    | running body =>
        rcases body with ⟨_ | ⟨a, rest⟩, ending⟩
        · rw [at_] at made
          cases made
          rw [Task.next, Task.acts, at_]
          rfl
        · rw [at_] at made
          exact subscriptions_of_act? at_ made
    | fresh | created | labelled | shown | closing =>
        rw [at_] at made
        cases made
        rw [Task.next_of_acts_eq_nil (by rw [Task.acts, at_])]
        rfl

/-- **What is seen of a step of a task is its next act.** -/
theorem deedsBy_of_turn {setup : Setup} {r r' : Run}
    (made : r.happen? setup (.act (.task id)) = some (r', events))
    (found : r.world.tasks[id]? = some t)
    (turn : Turn setup.activators r.world t events spent scope) :
    deedsBy id ⟨r, .act (.task id), r', events⟩ = t.next := by
  obtain ⟨⟨w', events'⟩, stepped, same⟩ := Option.map_eq_some_iff.mp made
  cases same
  rw [deedsBy, if_pos rfl]
  dsimp only
  rw [found, Option.bind_some, toList_message?, turn.registrations,
    World.subscriptions_of_stepTask? found stepped, Subscriptions.gained_foldl_push]

end Step

/-! ## What a task has done -/

/-- A task has done the first part of a behaviour. -/
def Task.HasDone (b : Behaviour) (deeds : Deeds) (t : Task) : Prop :=
  match t.scope.phase with
  | .running body => Deeds.ofActs b.acts = deeds ++ .ofActs body.acts
  | .closing (some _) | .closed (some _) => deeds = .ofActs b.acts
  | .closing none | .closed none => ∃ rest, Deeds.ofActs b.acts = deeds ++ rest
  | _ => deeds = .none

namespace Task.HasDone

variable {b : Behaviour} {deeds : Deeds} {t : Task}

/-- In any case, what it has done is a first part of what the behaviour does. -/
theorem part (done : t.HasDone b deeds) : ∃ rest, Deeds.ofActs b.acts = deeds ++ rest := by
  unfold HasDone at done
  split at done
  · exact ⟨_, done⟩
  · exact ⟨.none, by rw [done, Deeds.append_none]⟩
  · exact ⟨.none, by rw [done, Deeds.append_none]⟩
  · exact done
  · exact done
  · exact ⟨_, by rw [done, Deeds.none_append]⟩

/-- Where the activator has returned, the task has done all of its acts. -/
theorem whole (done : t.HasDone b deeds) {r : Result} (returned : t.returned? = some r) :
    deeds = .ofActs b.acts := by
  rcases returned?_eq_some_iff.mp returned with at_ | at_
  · rw [HasDone, at_] at done
    exact done
  · rw [HasDone, at_] at done
    exact done

end Task.HasDone

section Tasks

variable {setup : Setup} {activators : Activators} {w : World} {r : Run} {moves : Moves} {t : Task}
  {id spent : Nat} {events : List Event} {scope : Scope Body Result} {deeds : Deeds}

/-- A step of a task takes its next act from what is left to do. -/
theorem Turn.hasDone (turn : Turn activators w t events spent scope)
    (done : t.HasDone (activators t.subsystem t.customPath w.fs) deeds) :
    Task.HasDone (activators t.subsystem t.customPath w.fs) (deeds ++ t.next) { t with scope } := by
  have taken {a : Act} {rest : List Act} {ending : Ending}
      (at_ : t.scope.phase = .running ⟨a :: rest, ending⟩) :
      Deeds.ofActs (activators t.subsystem t.customPath w.fs).acts =
        deeds ++ t.next ++ .ofActs rest := by
    rw [Task.HasDone, at_] at done
    rw [done, Task.next_of_running at_, Deeds.append_assoc, ← Deeds.ofActs_append]
    rfl
  cases turn with
  | around own =>
      rw [Task.next_of_acts_eq_nil (acts_eq_nil_of_advance own), Deeds.append_none]
      have part := done.part
      rw [Task.HasDone] at done
      cases own with
      | created at_ | labelled at_ | shown at_ =>
          rw [at_] at done
          exact done
      | uncreated | unlabelled | unshown | undisposed => exact part
      | @disposed result at_ =>
          rw [at_] at done
          cases result with
          | none => exact done
          | some result => exact done
  | called at_ =>
      rw [Task.next_of_acts_eq_nil (by rw [Task.acts, at_]), Deeds.append_none]
      rw [Task.HasDone, at_] at done
      rw [done]
      rfl
  | uncalled at_ =>
      rw [Task.next_of_acts_eq_nil (by rw [Task.acts, at_]), Deeds.append_none]
      exact done.part
  | updated at_ => exact taken at_
  | unupdated at_ => exact ⟨_, taken at_⟩
  | acted at_ _ _ _ left =>
      -- nothing is seen of waiting at the meeting place
      have now := taken at_
      rcases left with rfl | ⟨place, rfl⟩
      · exact now
      · exact now
  | @ended ending at_ =>
      have all : Deeds.ofActs (activators t.subsystem t.customPath w.fs).acts =
          deeds ++ t.next := by
        rw [Task.HasDone, at_] at done
        rw [done, Task.next, Task.acts, at_]
        rfl
      cases ending with
      | panic => exact ⟨.none, by rw [all, Deeds.append_none]⟩
      | succeed | fail => exact all.symm

/-- **What a task of a run has done is a first part of what its activator does**, and all of it once
that has ended. -/
theorem hasDone_of_history (h : Run.History setup ⟨.starting, w⟩ moves r)
    (new : w.tasks.length ≤ id) (found : r.world.tasks[id]? = some t) :
    t.HasDone (setup.activators t.subsystem t.customPath r.world.fs) (deedsOf id moves) := by
  induction h generalizing t with
  | nil =>
      rw [List.getElem?_eq_none new] at found
      cases found
  | @concat moves last next action events before made ih =>
      have step := step_sound made
      rw [fs_eq_of_new before step new found, deedsOf_concat]
      -- only its own turns add to what a task has done
      have idle (other : action ≠ .act (.task id)) :
          deedsOf id moves ++ deedsBy id ⟨last, action, next, events⟩ = deedsOf id moves := by
        rw [deedsBy, if_neg other, Deeds.append_none]
      cases step.change found with
      | launched first =>
          rw [idle nofun, deedsOf_eq_none fun move hm own =>
            Nat.lt_irrefl _ (first ▸ lt_of_mem_history before move hm id own)]
          rfl
      | same there elsewhere =>
          rw [idle fun own => elsewhere (own ▸ rfl)]
          exact ih there
      | spared there | late there =>
          rw [idle nofun]
          exact ih there
      | cancelled there =>
          rw [idle nofun]
          exact (ih there).part
      | turned there _ turn =>
          rw [deedsBy_of_turn made there turn]
          exact turn.hasDone (ih there)

/-- **Every task of a run is conducted as its activator is when it is left alone.** -/
theorem conduct_of_history {c : Commission}
    {located : Except Executable.LocateError Executable.Located}
    (h : Run.History setup ⟨.starting, w⟩ moves r) (new : w.tasks.length ≤ id)
    (found : r.world.tasks[id]? = some t)
    (upshot : Upshot c located (setup.activators t.subsystem t.customPath r.world.fs)) :
    Conduct c located (deedsOf id moves) t.returned? := by
  have done := hasDone_of_history h new found
  refine upshot.conduct done.part ?_
  intro result returned
  refine ⟨done.whole returned, ?_⟩
  have follows := (told_of_history h new found).follows
  rcases Task.returned?_eq_some_iff.mp returned with at_ | at_
  · rw [Task.Follows, at_] at follows
    exact follows
  · rw [Task.Follows, at_] at follows
    exact follows

end Tasks

end Activation

end ToolingHost
