import ToolingHost.Activation.Kotlin
import ToolingHost.Proofs.Activation.Handshake

/-! # Rehearsals are engagements

The conversation with a server that follows a script is opened, and closed if it was opened. All
that happens in it happens in a history of an engagement (`rehearse_history`), so whatever holds of
every history of an engagement holds of it. The history is built along the steps of the rehearsal:
`Fits` says which stage of the engagement goes with the calls that the rehearsal has left, and
`Lifted` that there is a history up to here that ends in such a stage. -/

namespace ToolingHost.Activation.Engagement

open ToolingHost.Client

/-- Whether a step of the conversation is one of a party, of the server, or of time. -/
structure IsOwn (action : Client.Action) : Prop where
  /-- It is no call. -/
  uncalled : ∀ call, action ≠ .call call
  /-- The client is not given up. -/
  kept : action ≠ .abandon

/-- Every step of a party, of the server, or of time is a step of the engagement. -/
theorem exists_step_eq_play {action : Client.Action} (own : IsOwn action) :
    ∃ step_ : Action, ∀ e : Engagement, e.step step_ = e.play action e.stage := by
  cases action with
  | call call => exact absurd rfl (own.uncalled call)
  | abandon => exact absurd rfl own.kept
  | party party => exact ⟨.party party, fun _ => rfl⟩
  | expire => exact ⟨.expire, fun _ => rfl⟩
  | server move => exact ⟨.server move, fun _ => rfl⟩

/-- A step of the conversation that an engagement plays. -/
theorem play_eq {e : Engagement} {action : Client.Action} {stage : Stage}
    {conversation : Conversation} {events : List Client.Event}
    (made : e.conversation.step action = some (conversation, events)) :
    e.play action stage =
      some ({ e with conversation, stage := stage.after events }, events.map .client) := by
  rw [play, made]
  rfl

/-- `Fits later calls outcome e`: the calls that are left, and what the first call returned, go with
the stage of an engagement; `later` are the calls behind the one that opens the conversation. -/
inductive Fits (later calls : List Call) (outcome : Option Outcome) (e : Engagement) : Prop where
  /-- No call was made. -/
  | started (at_ : e.stage = .started) (left : calls = .open e.workspace e.storage :: later)
      (pending : outcome = none) (alone : e.subscriptions = .empty)
  /-- The first call has not returned. -/
  | opening (at_ : e.stage = .opening) (left : calls = later) (pending : outcome = none)
      (alone : e.subscriptions = .empty)
  /-- The first call has returned. -/
  | returned {result : Outcome} (at_ : e.stage = .returned result.failure?) (left : calls = later)
      (first : outcome = some result) (alone : e.subscriptions = .empty)
  /-- The second call was made. -/
  | disposed (at_ : e.stage = .disposed) (left : calls = [])

/-- Once the first call was made, what it returns says how far the engagement has come. -/
theorem Fits.of_opening {later : List Call} {events : List Client.Event} {e : Engagement}
    (at_ : e.stage = Stage.after events .opening) (alone : e.subscriptions = .empty) :
    Fits later later (returned? events) e := by
  rw [Stage.after_opening] at at_
  cases returns : returned? events with
  | none =>
      rw [returns] at at_
      exact .opening at_ rfl rfl alone
  | some result =>
      rw [returns] at at_
      exact .returned at_ rfl rfl alone

/-- A history of an engagement that starts in a context without subscriptions leads to a
conversation through some events, and goes with the calls that are left. -/
def Lifted (start : Engagement) (later : List Call) (s : Conversation)
    (events : List Client.Event) (calls : List Call) : Prop :=
  ∃ moves e, History step start moves e ∧ clientEvents (eventsOf moves) = events ∧
    e.conversation = s ∧ Fits later calls (returned? events) e

namespace Lifted

variable {start : Engagement} {later calls : List Call} {s t : Conversation}
  {events more : List Client.Event}

/-- Nothing has happened at the start, and all calls are left. -/
theorem initial (processId : Json.Value) (capacity : Nat) (workspace storage : FilePath)
    (later : List Call) :
    Lifted (fresh processId capacity workspace storage .empty) later
      (.fresh Executable.languageServer.displayName processId capacity) []
      (.open workspace storage :: later) :=
  ⟨[], _, .nil, rfl, rfl, .started rfl rfl rfl rfl⟩

/-- What a history makes of a step that the engagement plays next. -/
theorem of_play {moves : List (Move Engagement Action Event)} {e : Engagement} {step_ : Action}
    {action : Client.Action} {stage : Stage} {subscriptions : Subscriptions}
    (h : History step start moves e) (same : clientEvents (eventsOf moves) = events)
    (plays : e.step step_ = play { e with subscriptions } action stage)
    (made : e.conversation.step action = some (t, more))
    (fits : Fits later calls (returned? (events ++ more))
      { e with conversation := t, subscriptions, stage := stage.after more }) :
    Lifted start later t (events ++ more) calls := by
  have step := plays.trans (play_eq (e := { e with subscriptions }) made)
  refine ⟨_, _, h.concat step, ?_, rfl, fits⟩
  rw [eventsOf_append, eventsOf_singleton, clientEvents_append, clientEvents_map, same]

end Lifted

section Steps

variable {processId : Json.Value} {capacity : Nat} {workspace storage : FilePath}
  {later calls : List Call} {s t : Conversation} {events more : List Client.Event}

/-- A step of a party, of the server, or of time goes on with the history. -/
theorem Lifted.own {action : Client.Action} (own : IsOwn action)
    (h : Lifted (fresh processId capacity workspace storage .empty) later s events calls)
    (made : s.step action = some (t, more)) :
    Lifted (fresh processId capacity workspace storage .empty) later t (events ++ more) calls := by
  obtain ⟨moves, e, history, same, rfl, fits⟩ := h
  obtain ⟨step_, plays⟩ := exists_step_eq_play own
  refine of_play history same (plays e) made ?_
  rw [returned?_append]
  cases fits with
  | started at_ left pending alone =>
      -- nothing returns before the first call is made
      obtain ⟨idle, -, -⟩ := (Standing.of_history history).position.of_started at_
      obtain ⟨-, -, -, silent⟩ := (Conversation.step_sound made).idle idle own.uncalled own.kept
      rw [at_, pending, silent]
      exact .started rfl left rfl alone
  | opening at_ left pending alone =>
      rw [at_, pending, left, Option.none_or]
      exact .of_opening rfl alone
  | returned at_ left first alone =>
      rw [at_, first]
      exact .returned rfl left rfl alone
  | disposed at_ left =>
      rw [at_]
      exact .disposed rfl left

/-- Several steps of a lifted conversation go on with the history too. -/
theorem Lifted.run {actions : List Client.Action} (own : ∀ action ∈ actions, IsOwn action)
    (h : Lifted (fresh processId capacity workspace storage .empty) later s events calls)
    (made : s.run actions = some (t, more)) :
    Lifted (fresh processId capacity workspace storage .empty) later t (events ++ more) calls := by
  induction actions generalizing s events more with
  | nil =>
      cases made
      rw [List.append_nil]
      exact h
  | cons action rest ih =>
      rcases first : s.step action with _ | ⟨next, now⟩
      · simp [Conversation.run, first] at made
      · rcases others : next.run rest with _ | ⟨last, after⟩
        · simp [Conversation.run, first, others] at made
        · simp only [Conversation.run, first, others] at made
          cases made
          have step := h.own (own action List.mem_cons_self) first
          rw [← List.append_assoc]
          exact ih (fun a ha => own a (List.mem_cons_of_mem _ ha)) step others

/-- A call is only made between calls. -/
theorem idle_of_call {call : Call} (made : s.step (.call call) = some (t, more)) :
    s.caller = .idle := by
  cases Conversation.step_sound made with
  | unlocatable at_ | opening at_ | closing at_ => exact at_

/-- **A call goes on with the history**, unless the conversation could not be opened before it. -/
theorem Lifted.call {call : Call} {rest : List Call} (single : later = [] ∨ later = [.close])
    (h : Lifted (fresh processId capacity workspace storage .empty) later s events
      (call :: rest))
    (made : s.step (.call call) = some (t, more)) :
    Lifted (fresh processId capacity workspace storage .empty) later t (events ++ more)
        rest ∨ (later ≠ [] ∧ ∃ failure, returned? events = some (.failed failure)) := by
  obtain ⟨moves, e, history, same, rfl, fits⟩ := h
  have idle := idle_of_call made
  cases fits with
  | started at_ left pending alone =>
      rw [List.cons.injEq] at left
      obtain ⟨rfl, rfl⟩ := left
      have plays : e.step .activator = e.play (.call (.open e.workspace e.storage)) .opening := by
        rw [step, stepActivator, at_]
      refine .inl (of_play history same plays made ?_)
      rw [returned?_append, pending, Option.none_or]
      exact .of_opening rfl alone
  | opening at_ =>
      -- the caller is making a request, so there is no call
      obtain ⟨uri, -, within⟩ := (Standing.of_history history).position.of_opening at_
      rw [idle] at within
      cases within
  | @returned result at_ left first alone =>
      rcases single with rfl | rfl
      · cases left
      · rw [List.cons.injEq] at left
        obtain ⟨rfl, rfl⟩ := left
        -- a conversation that failed to open is left alone by the engagement
        cases hf : result.failure? with
        | some failure =>
            refine .inr ⟨by simp, failure, ?_⟩
            cases result <;> cases hf
            exact first
        | none =>
            -- the client becomes a subscription first, and is disposed of at once
            rw [hf] at at_
            let held : Engagement :=
              { e with
                subscriptions := e.subscriptions.push (.plain Executable.languageServer.displayName)
                stage := .subscribed e.subscriptions.next }
            have subscribes :
                e.step .activator = some (held, [.subscribed e.subscriptions.next]) := by
              rw [step, stepActivator, at_]
            have releases : held.step .release =
                play { held with subscriptions := ⟨1, []⟩ } (.call .close) .disposed := by
              simp only [held, alone]
              rfl
            exact .inl (of_play (history.concat subscribes) (by simp [same]) releases made
              (.disposed rfl rfl))
  | disposed _ left => cases left

end Steps

/-! ## The steps of a rehearsal -/

/-- A step of a rehearsal makes steps of the parties, of the server, or of time, or the next call.
-/
inductive Rehearsed (r next : Rehearsal) : Prop where
  /-- Steps of the parties, of the server, or of time. -/
  | own {actions : List Client.Action} {events : List Client.Event}
      (own : ∀ action ∈ actions, IsOwn action)
      (made : r.conversation.run actions = some (next.conversation, events))
      (more : next.events = r.events ++ events) (left : next.calls = r.calls)
  /-- The next call. -/
  | call {call : Call} {events : List Client.Event}
      (made : r.conversation.step (.call call) = some (next.conversation, events))
      (more : next.events = r.events ++ events) (left : r.calls = call :: next.calls)

/-- The actions that a rehearsal plays are steps of its conversation, and they make no call. -/
theorem play?_eq_some {r next : Rehearsal} {actions : List Client.Action}
    (h : r.play? actions = some next) :
    ∃ events, r.conversation.run actions = some (next.conversation, events) ∧
      next.events = r.events ++ events ∧ next.calls = r.calls := by
  obtain ⟨⟨conversation, events⟩, made, he⟩ := Option.map_eq_some_iff.mp h
  cases he
  exact ⟨events, made, rfl, rfl⟩

/-- A single step of a party or of time. -/
theorem Rehearsed.of_play? {r next : Rehearsal} {action : Client.Action} (own : IsOwn action)
    (h : r.play? [action] = some next) : Rehearsed r next := by
  obtain ⟨events, made, more, left⟩ := play?_eq_some h
  refine .own (fun a ha => ?_) made more left
  rw [List.mem_singleton.mp ha]
  exact own

/-- A run of one step is that step. -/
theorem run_singleton (s : Conversation) (action : Client.Action) :
    s.run [action] = s.step action := by
  cases made : s.step action <;> simp [Conversation.run, made]

/-- **Every step of a rehearsal is one of these.** -/
theorem rehearsed_of_step? {r next : Rehearsal} (h : r.step? = some next) : Rehearsed r next := by
  have party (party : Party) : IsOwn (.party party) := ⟨by simp, by simp⟩
  simp only [Rehearsal.step?, Rehearsal.stepClient?, Option.orElse_eq_or,
    Option.or_eq_some_iff] at h
  rcases h with (h | ⟨-, h | ⟨-, h⟩⟩) | ⟨-, h | ⟨-, h | ⟨-, h⟩⟩⟩
  · exact .of_play? (party .caller) h
  · exact .of_play? (party .reader) h
  · exact .of_play? (party .writer) h
  · unfold Rehearsal.stepCall? at h
    split at h
    · cases h
    · rename_i call rest calls
      obtain ⟨played, hp, rfl⟩ := Option.map_eq_some_iff.mp h
      obtain ⟨events, made, more, -⟩ := play?_eq_some hp
      rw [run_singleton] at made
      exact .call made more calls
  · unfold Rehearsal.stepServer? at h
    split at h
    · cases h
    · rename_i server moves _
      obtain ⟨played, hp, rfl⟩ := Option.map_eq_some_iff.mp h
      obtain ⟨events, made, more, left⟩ := play?_eq_some hp
      refine .own (fun action ha => ?_) made more left
      obtain ⟨move, -, rfl⟩ := List.mem_map.mp ha
      exact ⟨by simp, by simp⟩
  · exact .of_play? ⟨by simp, by simp⟩ h

/-- A rehearsal has made a history of an engagement, or the conversation could not be opened and was
to be closed. -/
def Follows (start : Engagement) (later : List Call) (r : Rehearsal) : Prop :=
  Lifted start later r.conversation r.events r.calls ∨
    (later ≠ [] ∧ ∃ failure, returned? r.events = some (.failed failure))

section Runs

variable {processId : Json.Value} {capacity : Nat} {workspace storage : FilePath}
  {later : List Call}

/-- Every step of a rehearsal goes on with the history. -/
theorem Follows.step {r next : Rehearsal} (single : later = [] ∨ later = [.close])
    (h : Follows (fresh processId capacity workspace storage .empty) later r)
    (rehearsed : Rehearsed r next) :
    Follows (fresh processId capacity workspace storage .empty) later next := by
  rcases h with lifted | ⟨some_, failure, failed⟩
  · cases rehearsed with
    | own own made more left =>
        rw [Follows, more, left]
        exact .inl (lifted.run own made)
    | call made more left =>
        rw [left] at lifted
        rw [Follows, more]
        refine (lifted.call single made).imp_right fun ⟨some_, failure, failed⟩ => ?_
        exact ⟨some_, failure, by rw [returned?_append, failed]; rfl⟩
  · refine .inr ⟨some_, failure, ?_⟩
    cases rehearsed with
    | own _ _ more => rw [more, returned?_append, failed]; rfl
    | call _ more => rw [more, returned?_append, failed]; rfl

/-- All steps of a rehearsal together follow the engagement. -/
theorem Follows.steps {r : Rehearsal} (single : later = [] ∨ later = [.close])
    (h : Follows (fresh processId capacity workspace storage .empty) later r) (fuel : Nat) :
    Follows (fresh processId capacity workspace storage .empty) later (r.steps fuel) := by
  induction fuel generalizing r with
  | zero => exact h
  | succ fuel ih =>
      cases made : r.step? with
      | none => simpa [Rehearsal.steps, made] using h
      | some next =>
          simp only [Rehearsal.steps, made]
          exact ih (h.step single (rehearsed_of_step? made))

/-- The first outcome of a rehearsal is what its first call returned. -/
theorem head?_outcomes (r : Rehearsal) : r.outcomes.head? = returned? r.events := by
  rw [Rehearsal.outcomes, List.head?_filterMap]
  rfl

end Runs

/-- **A rehearsal of the activator is a history of an engagement.** All that happens when the
conversation with a server that follows a script is opened, and closed if it was opened, happens in
a history that starts in a context without subscriptions. -/
theorem rehearse_history (processId : Json.Value) (script : List ScriptLine)
    (workspace storage : FilePath) :
    ∃ moves e, History step
        (fresh processId Rehearsal.pipeCapacity workspace storage .empty) moves e ∧
      clientEvents (eventsOf moves) =
        (Kotlin.rehearse processId script workspace storage).events ∧
      e.conversation = (Kotlin.rehearse processId script workspace storage).conversation := by
  have follows (later : List Call) (single : later = [] ∨ later = [.close]) :
      Follows (fresh processId Rehearsal.pipeCapacity workspace storage .empty) later
        (Rehearsal.run Executable.languageServer.displayName processId script
          (.open workspace storage :: later)) :=
    Follows.steps single (.inl (.initial processId _ workspace storage later)) _
  unfold Kotlin.rehearse
  dsimp only
  split
  · rename_i opened
    -- it opened, so the case that it failed to does not arise
    rcases follows [.close] (.inr rfl) with
      ⟨moves, e, history, same, conversation, -⟩ | ⟨-, _, failed⟩
    · exact ⟨moves, e, history, same, conversation⟩
    · rw [head?_outcomes, failed] at opened
      cases opened
  · rcases follows [] (.inl rfl) with ⟨moves, e, history, same, conversation, -⟩ | ⟨other, -⟩
    · exact ⟨moves, e, history, same, conversation⟩
    · exact absurd rfl other

end ToolingHost.Activation.Engagement
