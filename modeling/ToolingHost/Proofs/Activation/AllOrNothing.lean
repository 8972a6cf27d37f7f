import ToolingHost.Proofs.Activation.Doings
import ToolingHost.Proofs.Activation.Handshake
import ToolingHost.Proofs.Activation.Wiring

/-! # The activators of Kotlin are all or nothing

This holds of what they do when they are left alone, of what their tasks have done at any time of a
run, and of the language server's activator in its dealings with a client and a server that may do
anything. In the dealings, `Engagement.Joining` says how far the activator has come, and every step
keeps it. -/

namespace ToolingHost.Activation

namespace Engagement

open ToolingHost.Client

/-! ## What the activator adds -/

/-- The subscriptions that the activator adds in a move. -/
def addedBy (move : Move Engagement Action Event) : List Subscription :=
  match move.action with
  | .activator => move.source.subscriptions.gained move.target.subscriptions
  | _ => []

/-- The subscriptions that the activator adds, in order. -/
def addedIn (moves : List (Move Engagement Action Event)) : List Subscription :=
  moves.flatMap addedBy

/-- How the call that opens the conversation has returned: why it failed, if it did. -/
def openingOf (moves : List (Move Engagement Action Event)) : Option (Option Failure) :=
  (returned? (clientEvents (eventsOf moves))).map Outcome.failure?

/-- How the activator has returned, if it has. Where the conversation is open, it goes on. -/
def activatorResult? (moves : List (Move Engagement Action Event)) (e : Engagement) :
    Option Result :=
  match openingOf moves, e.stage with
  | none, _ => none
  | some (some failure), _ => some (.failed (Kotlin.openingChain failure))
  | some none, .returned none => none
  | some none, _ => some .succeeded

/-- The subscription that an event shows. -/
def Event.subscription? : Event → Option Subscription
  | .subscribed _ => some (.plain Executable.languageServer.displayName)
  | .client _ => none

/-- Nothing is added where things happen in the conversation. -/
theorem filterMap_subscription?_client (own : List Client.Event) :
    (own.map Event.client).filterMap Event.subscription? = [] := by
  simp [Function.comp_def, Event.subscription?]

section Step

variable {e f : Engagement} {events : List Event}

/-- A step of the conversation adds nothing. -/
theorem silent_of_play {action : Client.Action} {stage : Stage}
    (made : e.play action stage = some (f, events)) :
    events.filterMap Event.subscription? = [] ∧ f.subscriptions = e.subscriptions := by
  obtain ⟨⟨conversation, own⟩, -, same⟩ := Option.map_eq_some_iff.mp made
  cases same
  exact ⟨filterMap_subscription?_client own, rfl⟩

/-- Where nothing is added, nothing is gained. -/
theorem gained_of_eq {before now : Subscriptions} (same : now = before) :
    before.gained now = [] := same ▸ Subscriptions.gained_foldl_push before []

/-- **What the activator adds is what is seen**: others do not add the client. -/
theorem addedBy_eq {action : Action} (made : e.step action = some (f, events)) :
    addedBy ⟨e, action, f, events⟩ = events.filterMap Event.subscription? := by
  cases action with
  | activator =>
      simp only [step, stepActivator] at made
      -- only a call that has returned well is followed by the subscription
      split at made
      · obtain ⟨silent, same⟩ := silent_of_play made
        rw [silent]
        exact gained_of_eq same
      · cases made
        exact Subscriptions.gained_foldl_push e.subscriptions
          [.plain Executable.languageServer.displayName]
      · obtain ⟨silent, same⟩ := silent_of_play made
        rw [silent]
        exact gained_of_eq same
      · cases made
  | party | expire | server => exact (silent_of_play made).1.symm
  | subscribe =>
      cases made
      rfl
  | release =>
      simp only [step, release] at made
      split at made
      · split at made
        · exact (silent_of_play made).1.symm
        · exact (silent_of_play made).1.symm
      · cases made
        rfl

end Step

/-! ## How far the activator has come -/

/-- `Joining stage result added`: at a stage, how the call that opens the conversation has returned,
and what the activator has added. A client may have been given up before or after it was added. -/
def Joining (stage : Stage) (result : Option (Option Failure)) (added : List Subscription) : Prop :=
  match stage with
  | .started | .opening => result = none ∧ added = []
  | .returned failure => result = some failure ∧ added = []
  | .subscribed _ | .disposed => result = some none ∧ added = Kotlin.serverCommission.subscriptions
  | .dropped =>
    (∃ failure, result = some (some failure)) ∧ added = [] ∨
      result = some none ∧ added = Kotlin.serverCommission.subscriptions

namespace Joining

variable {processId : Json.Value} {workspace storage : FilePath} {past events : List Event}
  {e f : Engagement} {own : List Client.Event} {result : Option (Option Failure)}
  {added : List Subscription}

/-- The activator goes on when the call has returned. -/
theorem after_opening (own : List Client.Event) :
    Joining (Stage.after own .opening) ((returned? own).map Outcome.failure?) [] := by
  rw [Stage.after_opening]
  cases returned? own with
  | none => exact ⟨rfl, rfl⟩
  | some outcome => exact ⟨rfl, rfl⟩

/-- What has been opened stays opened while the engagement goes on, as the first return counts. -/
theorem goesOn (joining : Joining e.stage result added)
    (standing : Standing processId workspace storage past e) {action : Client.Action}
    {conversation : Conversation} (made : Client.Step e.conversation action conversation own)
    (uncalled : ∀ call, action ≠ .call call) (kept : action ≠ .abandon) :
    Joining (e.stage.after own) (result.or ((returned? own).map Outcome.failure?)) added := by
  cases at_ : e.stage with
  | started =>
      rw [at_] at joining
      obtain ⟨rfl, rfl⟩ := joining
      -- nothing returns before the call has been made
      obtain ⟨idle, -, -⟩ := standing.position.of_started at_
      obtain ⟨-, -, -, silent⟩ := made.idle idle uncalled kept
      rw [silent]
      exact ⟨rfl, rfl⟩
  | «opening» =>
      rw [at_] at joining
      obtain ⟨rfl, rfl⟩ := joining
      exact after_opening own
  | returned | subscribed | disposed =>
      rw [at_] at joining
      obtain ⟨rfl, rfl⟩ := joining
      exact ⟨rfl, rfl⟩
  | dropped =>
      rw [at_] at joining
      rcases joining with ⟨⟨failure, rfl⟩, rfl⟩ | ⟨rfl, rfl⟩
      · exact .inl ⟨⟨failure, rfl⟩, rfl⟩
      · exact .inr ⟨rfl, rfl⟩

/-- **Every step takes the activator further.** -/
theorem step (joining : Joining e.stage result added)
    (standing : Standing processId workspace storage past e) (made : Made e f events) :
    Joining f.stage (result.or ((returned? (clientEvents events)).map Outcome.failure?))
      (added ++ events.filterMap Event.subscription?) := by
  cases made with
  | shared =>
      simp only [clientEvents, List.filterMap_nil, returned?_nil, Option.map_none, Option.or_none,
        List.append_nil]
      exact joining
  | subscribed at_ =>
      rw [at_] at joining
      obtain ⟨rfl, rfl⟩ := joining
      exact ⟨rfl, rfl⟩
  | played plays made =>
      rw [clientEvents_map, filterMap_subscription?_client, List.append_nil]
      cases plays with
      | goesOn uncalled kept =>
          exact joining.goesOn standing (Conversation.step_sound made) uncalled kept
      | opens at_ =>
          rw [at_] at joining
          obtain ⟨rfl, rfl⟩ := joining
          exact after_opening _
      | fails at_ =>
          rw [at_] at joining
          obtain ⟨rfl, rfl⟩ := joining
          exact .inl ⟨⟨_, rfl⟩, rfl⟩
      | closes at_ =>
          rw [at_] at joining
          obtain ⟨rfl, rfl⟩ := joining
          exact ⟨rfl, rfl⟩
      | drops at_ =>
          rw [at_] at joining
          obtain ⟨rfl, rfl⟩ := joining
          exact .inr ⟨rfl, rfl⟩

/-- What was opened and added agrees with the stage after every history of an engagement. -/
theorem of_history {capacity : Nat} {subscriptions : Subscriptions}
    {moves : List (Move Engagement Action Event)}
    (h : History Engagement.step (fresh processId capacity workspace storage subscriptions) moves
      e) : Joining e.stage (openingOf moves) (addedIn moves) := by
  induction h with
  | nil => exact ⟨rfl, rfl⟩
  | concat before made ih =>
      have joining := ih.step (Standing.of_history before) (step_sound made)
      rw [openingOf, ← Option.map_or, ← returned?_append, ← clientEvents_append] at joining
      rw [openingOf, addedIn, List.flatMap_append, eventsOf_append, eventsOf_singleton,
        List.flatMap_singleton, addedBy_eq made]
      exact joining

/-- The client has been added exactly where the activator has succeeded. -/
theorem added_eq {moves : List (Move Engagement Action Event)}
    (joining : Joining e.stage (openingOf moves) added) :
    added = if activatorResult? moves e = some .succeeded then
      Kotlin.serverCommission.subscriptions else [] := by
  unfold activatorResult?
  generalize openingOf moves = result at joining
  cases at_ : e.stage with
  | started | «opening» | subscribed | disposed =>
      rw [at_] at joining
      obtain ⟨rfl, rfl⟩ := joining
      rfl
  | returned failure =>
      rw [at_] at joining
      obtain ⟨rfl, rfl⟩ := joining
      cases failure <;> rfl
  | dropped =>
      rw [at_] at joining
      rcases joining with ⟨⟨failure, rfl⟩, rfl⟩ | ⟨rfl, rfl⟩
      · rfl
      · rfl

end Joining

end Engagement

/-! ## All or nothing -/

open Executable (locate)

/-- **Both activators are all or nothing.** Whatever they meet outside the program, with every path
and all arguments: they return, and have then done the whole of their commission after a success, in
which the adapter is registered at the very path that was found, and after a failure nothing but a
first part of its messages, which is the first message where the search has failed. In a run,
whatever else is done to the context and the host, the same holds of the task of each activator; as
long as that has not returned, it has done a first part. And in the dealings with a server that may
do anything, the activator of the language server adds the client to the context exactly if it
succeeds. -/
theorem activators_all_or_nothing :
    (∀ around settings s custom fs,
      (Kotlin.activators around settings s custom fs).panicsAtOnce = false ∧
        ∃ result, (Kotlin.activators around settings s custom fs).ending.result? = some result ∧
          Conduct (Kotlin.commission settings s)
            (locate fs around.env (.ofSubsystem s) custom around.storage)
            (.ofActs (Kotlin.activators around settings s custom fs).acts) (some result)) ∧
      (∀ setup w r moves, Run.History setup ⟨.starting, w⟩ moves r →
        ∀ around, setup.activators = Kotlin.activators around setup.settings →
          ∀ id t, w.tasks.length ≤ id → r.world.tasks[id]? = some t →
            Conduct (Kotlin.commission setup.settings t.subsystem)
              (locate r.world.fs around.env (.ofSubsystem t.subsystem) t.customPath around.storage)
              (deedsOf id moves) t.returned?) ∧
      ∀ processId capacity workspace storage subscriptions moves e,
        History Engagement.step
            (Engagement.fresh processId capacity workspace storage subscriptions) moves e →
          Engagement.addedIn moves =
            if Engagement.activatorResult? moves e = some .succeeded then
              Kotlin.serverCommission.subscriptions else [] := by
  refine ⟨?_, ?_, ?_⟩
  · intro around settings s custom fs
    have upshot : Upshot _ _ (Kotlin.activators around settings s custom fs) :=
      Kotlin.upshot_activators settings s
    obtain ⟨calm, result, returns⟩ := upshot.returns
    refine ⟨calm, result, returns, upshot.conduct ⟨.none, (Deeds.append_none _).symm⟩ ?_⟩
    intro r same
    cases same
    exact ⟨rfl, returns⟩
  · intro setup w r moves h around kotlin id t new found
    refine conduct_of_history h new found ?_
    rw [kotlin]
    exact Kotlin.upshot_activators setup.settings t.subsystem
  · intro processId capacity workspace storage subscriptions moves e h
    exact (Engagement.Joining.of_history h).added_eq

/-- A run in which the debug adapter is registered and its activator has returned. -/
def registeringMoves : Moves :=
  movesOf (Run.happen? (lopsided "a")) rootRun
    (List.replicate 5 (.act .coordinator) ++ List.replicate 10 (.act (.task 0)))

/-- Nothing is outside the program. -/
def bare : Kotlin.Surroundings := ⟨⟨[]⟩, .ofString "/", fun _ => false, [], none, []⟩

/-- In a run, the debug adapter is registered once, at its own path; where there is no language
server, the first message is issued; and a client whose server answers is added once. -/
theorem activators_all_or_nothing_registered :
    deedsOf 0 registeringMoves =
        ⟨["Locating Kotlin Debug Adapter...", "Registering Kotlin Debug Adapter..."], [],
          [DebugAdapter.Kotlin.registration (.ofString "/") ["--port"]]⟩ ∧
      (Deeds.ofActs
          (Kotlin.activators bare .initial .languageServer none ⟨[], [], []⟩).acts).messages =
        ["Locating Kotlin Language Server..."] ∧
      Engagement.addedIn
          (movesOf Engagement.step Engagement.rootEngagement Engagement.wholeConversation) =
        [.plain "Kotlin Language Server"] := by
  obtain ⟨alone, runs, dealings⟩ := activators_all_or_nothing
  refine ⟨?_, ?_, ?_⟩
  · obtain ⟨r, t, h, there, subsystem, path, returned⟩ :
        ∃ r t, Run.History (lopsided "a") rootRun registeringMoves r ∧
          r.world.tasks[0]? = some t ∧ t.subsystem = .debugAdapter ∧
          t.customPath = some (.ofString "/") ∧ t.returned? = some .succeeded :=
      ⟨_, _, .of_actions _ _ _, rfl, rfl, rfl, rfl⟩
    have conduct := runs _ _ _ _ h _ rfl 0 t (Nat.zero_le _) there
    obtain ⟨found, located, done⟩ := conduct.success returned
    rw [done, subsystem]
    have own : found.path = .ofString "/" := Kotlin.path_of_locate path located
    show Deeds.mk _ _ [⟨_, ⟨found.path, _, _⟩, _⟩] = _
    rw [own]
    rfl
  · obtain ⟨-, result, -, conduct⟩ := alone bare .initial .languageServer none ⟨[], [], []⟩
    obtain ⟨e, missing⟩ : ∃ e, locate ⟨[], [], []⟩ bare.env (.ofSubsystem .languageServer) none
        bare.storage = .error e := ⟨_, rfl⟩
    obtain ⟨-, -, -, ended⟩ := conduct.lost e missing
    exact (ended result rfl).2
  · exact (dealings _ _ _ _ _ _ _ (.of_actions _ _ _)).trans (if_pos (by decide +kernel))

end ToolingHost.Activation
