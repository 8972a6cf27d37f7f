import ToolingHost.Activation.Engagement
import ToolingHost.Proofs.Client.Calls

/-! # The order of the client's messages

A client that is driven by the activator and later disposed of sends two requests, each followed by
a notification. `handshake` lists the four messages, `Position` says how many of them have been sent
wherever the activator and the caller stand, and `Standing` adds what must have happened before: an
answer without error before each notification, and the first notification before the client becomes
a subscription. Every step keeps `Standing`, so it holds whatever the server does and however the
parties are interleaved. -/

namespace ToolingHost.Activation.Engagement

open ToolingHost.Client ToolingHost.Json

/-- What happened in the conversation, if the event is that. -/
def Event.client? : Event → Option Client.Event
  | .client event => some event
  | _ => none

/-- What happened in the conversation, in order. -/
def clientEvents (events : List Event) : List Client.Event := events.filterMap Event.client?

/-- What happened in the conversation before comes first. -/
@[simp] theorem clientEvents_append (first second : List Event) :
    clientEvents (first ++ second) = clientEvents first ++ clientEvents second := by
  simp [clientEvents]

/-- Nothing happened in the conversation where the client became a subscription. -/
@[simp] theorem clientEvents_subscribed (number : Nat) :
    clientEvents [.subscribed number] = [] := rfl

/-- What happened in the conversation is all that its steps make happen. -/
@[simp] theorem clientEvents_map (events : List Client.Event) :
    clientEvents (events.map .client) = events := by
  simp [clientEvents, Event.client?, Function.comp_def]

/-- Something happened in the conversation exactly if it happened. -/
theorem mem_clientEvents {event : Client.Event} {events : List Event} :
    event ∈ clientEvents events ↔ .client event ∈ events := by
  simp only [clientEvents, List.mem_filterMap]
  constructor
  · rintro ⟨other, hother, he⟩
    cases other <;> cases he
    exact hother
  · intro h
    exact ⟨_, h, rfl⟩

/-! ## The four messages -/

/-- The notification that the conversation is open. -/
def initialized : Value := Rpc.Notification.toValue ⟨"initialized", some (.object [])⟩

/-- The notification that the conversation is over. -/
def «exit» : Value := Rpc.Notification.toValue ⟨"exit", none⟩

/-- The two messages that open the conversation about a workspace with a URI. -/
def greeting (processId : Value) (uri : String) (storage : FilePath) : List Value :=
  [Rpc.Request.toValue ⟨1, "initialize", some (Rpc.handshakeParams processId uri storage)⟩,
    initialized]

/-- The two messages that close the conversation. -/
def farewell : List Value := [Rpc.Request.toValue ⟨2, "shutdown", none⟩, «exit»]

/-- All messages of a client on its own account, in order. There are none if the workspace has no
URI. -/
def handshake (processId : Value) (workspace storage : FilePath) : List Value :=
  match FileUri.ofPath? workspace with
  | none => []
  | some uri => greeting processId uri storage ++ farewell

/-! ## What a step can do -/

/-- The steps of the conversation that an engagement makes, and the stage that each leads to. -/
inductive Plays (e : Engagement) : Client.Action → Stage → Prop where
  /-- The activator opens the conversation. -/
  | opens (at_ : e.stage = .started) : Plays e (.call (.open e.workspace e.storage)) .opening
  /-- The activator gives the client up. -/
  | fails {failure : Failure} (at_ : e.stage = .returned (some failure)) :
      Plays e .abandon .dropped
  /-- The client is disposed of. -/
  | closes {number : Nat} (at_ : e.stage = .subscribed number) : Plays e (.call .close) .disposed
  /-- The client goes away with the subscriptions. -/
  | drops {number : Nat} (at_ : e.stage = .subscribed number) : Plays e .abandon .dropped
  /-- A party or the server makes a step, or a time limit expires. -/
  | goesOn {action : Client.Action} (uncalled : ∀ call, action ≠ .call call)
      (kept : action ≠ .abandon) : Plays e action e.stage

/-- The steps of an engagement. -/
inductive Made (e : Engagement) : Engagement → List Event → Prop where
  /-- A step of the conversation. -/
  | played {action : Client.Action} {stage : Stage} {conversation : Conversation}
      {events : List Client.Event} {subscriptions : Subscriptions} (plays : Plays e action stage)
      (made : e.conversation.step action = some (conversation, events)) :
      Made e { e with conversation, subscriptions, stage := stage.after events }
        (events.map .client)
  /-- The client becomes a subscription. -/
  | subscribed (at_ : e.stage = .returned none) :
      Made e { e with
        subscriptions := e.subscriptions.push (.plain Executable.languageServer.displayName)
        stage := .subscribed e.subscriptions.next } [.subscribed e.subscriptions.next]
  /-- Something else happens to the subscriptions. -/
  | shared {subscriptions : Subscriptions} : Made e { e with subscriptions } []

/-- A step of the conversation is made by the engagement if it plays it. -/
theorem Made.of_play {e f : Engagement} {events : List Event} {action : Client.Action}
    {stage : Stage} {subscriptions : Subscriptions} (plays : Plays e action stage)
    (made : play { e with subscriptions } action stage = some (f, events)) : Made e f events := by
  obtain ⟨⟨conversation, own⟩, step, he⟩ := Option.map_eq_some_iff.mp made
  cases he
  exact .played plays step

/-- **Every step of an engagement is in the list.** -/
theorem step_sound {e f : Engagement} {action : Action} {events : List Event}
    (h : e.step action = some (f, events)) : Made e f events := by
  cases action with
  | activator =>
      simp only [step, stepActivator] at h
      split at h
      · rename_i at_
        exact .of_play (.opens at_) h
      · rename_i at_
        cases h
        exact .subscribed at_
      · rename_i at_
        exact .of_play (.fails at_) h
      · cases h
  | party party => exact .of_play (.goesOn (by simp) (by simp)) h
  | expire => exact .of_play (.goesOn (by simp) (by simp)) h
  | server move => exact .of_play (.goesOn (by simp) (by simp)) h
  | subscribe subscription =>
      cases h
      exact .shared
  | release =>
      simp only [step, release] at h
      split at h
      · rename_i at_
        split at h
        · exact .of_play (.closes at_) h
        · exact .of_play (.drops at_) h
      · cases h
        exact .shared

/-- The activator that waits for the conversation to be open goes on when a call has returned. -/
theorem Stage.after_opening (events : List Client.Event) :
    Stage.after events .opening =
      match returned? events with
      | some outcome => .returned outcome.failure?
      | none => .opening := rfl

/-! ## How many messages have been sent -/

/-- `Position processId e sent`: where an engagement stands, and what its client has sent by then.
-/
inductive Position (processId : Value) (e : Engagement) (sent : List Value) : Prop where
  /-- Nothing has been done. -/
  | started (at_ : e.stage = .started) (idle : e.conversation.caller = .idle)
      (first : e.conversation.nextId = 1) (nothing : sent = [])
  /-- The first request is being made. -/
  | opening {uri : String} (at_ : e.stage = .opening)
      (named : FileUri.ofPath? e.workspace = some uri)
      (within : Within .opening 1 (some (Rpc.handshakeParams processId uri e.storage))
        e.conversation.nextId e.conversation.caller sent)
  /-- The conversation could not be opened. -/
  | failed {failure : Failure} (at_ : e.stage = .returned (some failure))
      (idle : e.conversation.caller = .idle)
      (few : sent <+: handshake processId e.workspace e.storage)
  /-- The conversation is open. -/
  | opened {uri : String} (at_ : e.stage = .returned none ∨ ∃ number, e.stage = .subscribed number)
      (named : FileUri.ofPath? e.workspace = some uri) (idle : e.conversation.caller = .idle)
      (second : e.conversation.nextId = 2) (both : sent = greeting processId uri e.storage)
  /-- The second request is being made. -/
  | closing {uri : String} {own : List Value} (at_ : e.stage = .disposed)
      (named : FileUri.ofPath? e.workspace = some uri)
      (within : Within .closing 2 none e.conversation.nextId e.conversation.caller own)
      (both : sent = greeting processId uri e.storage ++ own)
  /-- No more messages will be sent. -/
  | finished (at_ : e.stage = .disposed ∨ e.stage = .dropped)
      (finished : e.conversation.caller.isOver = true)
      (few : sent <+: handshake processId e.workspace e.storage)

/-- A workspace with a URI makes for four messages. -/
theorem handshake_eq {processId : Value} {workspace storage : FilePath} {uri : String}
    (named : FileUri.ofPath? workspace = some uri) :
    handshake processId workspace storage = greeting processId uri storage ++ farewell := by
  rw [handshake, named]

namespace Position

variable {processId : Value} {e f : Engagement} {sent : List Value} {events : List Event}

/-- What has been sent is the first part of the four messages. -/
theorem isPrefix (h : Position processId e sent) :
    sent <+: handshake processId e.workspace e.storage := by
  cases h with
  | started _ _ _ nothing => exact nothing ▸ List.nil_prefix
  | opening _ named within =>
      rw [handshake_eq named]
      exact within.isPrefix.trans ⟨initialized :: farewell, rfl⟩
  | failed _ _ few => exact few
  | opened _ named _ _ both =>
      rw [handshake_eq named, both]
      exact List.prefix_append _ _
  | closing _ named within both =>
      rw [handshake_eq named, both, List.prefix_append_right_inj]
      exact within.isPrefix.trans ⟨[«exit»], rfl⟩
  | finished _ _ few => exact few

/-- At the start nothing has been sent. -/
theorem of_started (h : Position processId e sent) (at_ : e.stage = .started) :
    e.conversation.caller = .idle ∧ e.conversation.nextId = 1 ∧ sent = [] := by
  cases h with
  | started _ idle first nothing => exact ⟨idle, first, nothing⟩
  | opening other | failed other | opened other | closing other | finished other =>
      rw [at_] at other
      simp at other

/-- While the conversation is being opened, the caller is making the first request. -/
theorem of_opening (h : Position processId e sent) (at_ : e.stage = .opening) :
    ∃ uri, FileUri.ofPath? e.workspace = some uri ∧
      Within .opening 1 (some (Rpc.handshakeParams processId uri e.storage))
        e.conversation.nextId e.conversation.caller sent := by
  cases h with
  | opening _ named within => exact ⟨_, named, within⟩
  | started other | failed other | opened other | closing other | finished other =>
      rw [at_] at other
      simp at other

/-- While the conversation is open, the first two messages have been sent. -/
theorem of_opened (h : Position processId e sent)
    (at_ : e.stage = .returned none ∨ ∃ number, e.stage = .subscribed number) :
    ∃ uri, FileUri.ofPath? e.workspace = some uri ∧ e.conversation.caller = .idle ∧
      e.conversation.nextId = 2 ∧ sent = greeting processId uri e.storage := by
  cases h with
  | opened _ named idle second both => exact ⟨_, named, idle, second, both⟩
  | started other | opening other | failed other | closing other | finished other =>
      rcases at_ with at_ | ⟨number, at_⟩ <;> rw [at_] at other <;> simp at other

/-- The request that the caller is making has the number that belongs to it. -/
theorem within (h : Position processId e sent) (busy : e.conversation.caller ≠ .idle)
    (unfinished : e.conversation.caller.isOver = false) :
    ∃ purpose params own, Within purpose purpose.number params e.conversation.nextId
      e.conversation.caller own := by
  cases h with
  | started _ idle | failed _ idle | opened _ _ idle => exact absurd idle busy
  | opening _ _ within => exact ⟨.opening, _, _, within⟩
  | closing _ _ within => exact ⟨.closing, _, _, within⟩
  | finished _ finished =>
      rw [finished] at unfinished
      cases unfinished

/-- Where the subscriptions play no part, the position is the same. -/
theorem congr (h : Position processId e sent) (subscriptions : Subscriptions) :
    Position processId { e with subscriptions } sent := by
  cases h with
  | started at_ idle first nothing => exact .started at_ idle first nothing
  | opening at_ named within => exact .opening at_ named within
  | failed at_ idle few => exact .failed at_ idle few
  | opened at_ named idle second both => exact .opened at_ named idle second both
  | closing at_ named within both => exact .closing at_ named within both
  | finished at_ finished few => exact .finished at_ finished few

/-- The client sends nothing until it is called again, except for a request that is being made. -/
theorem goesOn (h : Position processId e sent) {action : Client.Action}
    {conversation : Conversation} {events : List Client.Event} {subscriptions : Subscriptions}
    (made : Client.Step e.conversation action conversation events)
    (uncalled : ∀ call, action ≠ .call call) (kept : action ≠ .abandon) :
    Position processId { e with conversation, subscriptions, stage := e.stage.after events }
      (sent ++ messagesIn events) := by
  cases h with
  | started at_ idle first nothing =>
      obtain ⟨idle, same, none, -⟩ := made.idle idle uncalled kept
      rw [none, List.append_nil]
      exact .started (by rw [at_]; rfl) idle (same.trans first) nothing
  | failed at_ idle few =>
      obtain ⟨idle, same, none, -⟩ := made.idle idle uncalled kept
      rw [none, List.append_nil]
      exact .failed (by rw [at_]; rfl) idle few
  | opened at_ named idle second both =>
      obtain ⟨idle, same, none, -⟩ := made.idle idle uncalled kept
      rw [none, List.append_nil]
      refine .opened ?_ named idle (same.trans second) both
      rcases at_ with at_ | ⟨number, at_⟩
      · exact .inl (by rw [at_]; rfl)
      · exact .inr ⟨number, by rw [at_]; rfl⟩
  | finished at_ finished few =>
      obtain ⟨finished, none⟩ := made.isOver finished
      rw [none, List.append_nil]
      refine .finished ?_ finished few
      rcases at_ with at_ | at_
      · exact .inl (by rw [at_]; rfl)
      · exact .inr (by rw [at_]; rfl)
  | opening at_ named within =>
      rcases within.step made with ⟨further, silent⟩ | ⟨idle, next, ended⟩
      · exact .opening (by rw [at_, Stage.after_opening, silent]) named further
      · -- the call returns, and what it returns says how far it came
        generalize messages : sent ++ messagesIn events = sent' at ended
        generalize returns : returned? events = outcome at ended
        cases ended with
        | announced =>
            refine .opened (.inl ?_) named idle next rfl
            rw [at_, Stage.after_opening, returns]
            rfl
        | @failed failure _ few =>
            have stage : e.stage.after events = .returned (some failure) := by
              rw [at_, Stage.after_opening, returns]
              rfl
            refine .failed stage idle ?_
            rw [handshake_eq named]
            exact few.trans ⟨initialized :: farewell, rfl⟩
  | closing at_ named within both =>
      -- whether the second request succeeds or fails, the engagement stays disposed of
      have stage : e.stage.after events = .disposed := by rw [at_]; rfl
      rw [both, List.append_assoc]
      rcases within.step made with ⟨further, -⟩ | ⟨stopping, -, ended⟩
      · exact .closing stage named further rfl
      · refine .finished (.inl stage) (by rw [stopping]; rfl) ?_
        rw [handshake_eq named, List.prefix_append_right_inj]
        generalize _ ++ messagesIn events = own at ended
        generalize returned? events = outcome at ended
        cases ended with
        | announced => exact List.prefix_refl _
        | failed few => exact few.trans ⟨[«exit»], rfl⟩

/-- **Every step sends the next messages, if any.** -/
theorem step (h : Position processId e sent) (same : e.conversation.processId = processId)
    (made : Made e f events) : Position processId f (sent ++ messagesIn (clientEvents events)) := by
  cases made with
  | shared => simpa [clientEvents] using h.congr _
  | subscribed at_ =>
      rw [clientEvents_subscribed, messagesIn_nil, List.append_nil]
      obtain ⟨uri, named, idle, second, both⟩ := h.of_opened (.inl at_)
      exact .opened (.inr ⟨_, rfl⟩) named idle second both
  | played plays made =>
      rw [clientEvents_map]
      have step := Conversation.step_sound made
      cases plays with
      | goesOn uncalled kept => exact h.goesOn step uncalled kept
      | opens at_ =>
          obtain ⟨idle, first, rfl⟩ := h.of_started at_
          -- a workspace without a URI fails before anything is sent
          cases step with
          | unlocatable => exact .failed rfl idle List.nil_prefix
          | opening _ named => exact .opening rfl named (same ▸ .registering first)
      | closes at_ =>
          obtain ⟨uri, named, idle, second, rfl⟩ := h.of_opened (.inr ⟨_, at_⟩)
          cases step with
          | closing => exact .closing rfl named (.registering second) rfl
      | fails | drops =>
          cases step with
          | abandoned => exact .finished (.inr rfl) rfl (by simpa using h.isPrefix)

end Position

/-! ## What has happened before -/

/-- The order to send a message, as something that the caller did. -/
def sends (message : Value) : Event := .client (.queued .caller (.send message))

/-- The invariant of an engagement, over what has happened so far. -/
structure Standing (processId : Value) (workspace storage : FilePath) (events : List Event)
    (e : Engagement) : Prop where
  /-- What identifies the client's own process stays the same. -/
  process : e.conversation.processId = processId
  /-- So does the workspace. -/
  workspace : e.workspace = workspace
  /-- So does the directory for the server's files. -/
  storage : e.storage = storage
  /-- The messages that have been sent are those that the position says. -/
  position : Position processId e (messagesIn (clientEvents events))
  /-- Requests are answered as they should be. -/
  ledger : ∃ moves, Conversation.Ledger moves e.conversation ∧ eventsOf moves = clientEvents events
  /-- A notification that will be sent follows an answer without error. -/
  answered : ∀ purpose, e.conversation.caller = .notifying purpose →
    Accepted purpose.number (dispatchedIn (clientEvents events))
  /-- So does a notification that was sent. -/
  notified : ∀ purpose : Purpose, Preceded (sends purpose.notification.toValue)
    (fun before => Accepted purpose.number (dispatchedIn (clientEvents before))) events
  /-- The client became a subscription after the first notification. -/
  subscribed : ∀ number, Preceded (.subscribed number) (fun before => sends initialized ∈ before)
    events

namespace Standing

variable {processId : Value} {workspace storage : FilePath} {events new : List Event}
  {e f : Engagement}

/-- A server that has just been started has been sent nothing. -/
theorem fresh (processId : Value) (capacity : Nat) (workspace storage : FilePath)
    (subscriptions : Subscriptions) :
    Standing processId workspace storage []
      (fresh processId capacity workspace storage subscriptions) where
  process := rfl
  workspace := rfl
  storage := rfl
  position := .started rfl rfl rfl rfl
  ledger := ⟨[], .fresh _ _ _, rfl⟩
  answered := by
    intro purpose notifying
    cases notifying
  notified := fun purpose before after split => by simp at split
  subscribed := fun number before after split => by simp at split

/-- A caller that is about to send a notification was handed an answer without error. -/
theorem answered_step (h : Standing processId workspace storage events e) {action : Client.Action}
    {conversation : Conversation} {own : List Client.Event}
    (made : Client.Step e.conversation action conversation own) {purpose : Purpose}
    (notifying : conversation.caller = .notifying purpose) :
    Accepted purpose.number (dispatchedIn (clientEvents events ++ own)) := by
  rw [dispatchedIn_append]
  rcases made.notifying notifying with before | ⟨id, body, waiting, found, fine⟩
  · exact (h.answered purpose before).append _
  -- the answer was dispatched for the number of the request, which belongs to the purpose
  · obtain ⟨moves, ledger, same⟩ := h.ledger
    obtain ⟨dispatched, answer⟩ := ledger.dispatched found
    obtain ⟨purpose', params, sent, within⟩ :=
      h.position.within (by rw [waiting]; simp) (by rw [waiting]; rfl)
    rw [waiting] at within
    obtain ⟨rfl, rfl⟩ := within.of_waiting
    exact Accepted.append ⟨body, same ▸ dispatched, answer, fine⟩ _

/-- A notification is sent after an answer without error. -/
theorem notified_step (h : Standing processId workspace storage events e) {action : Client.Action}
    {conversation : Conversation} {own : List Client.Event}
    (made : Client.Step e.conversation action conversation own) {purpose : Purpose}
    (sent : sends purpose.notification.toValue ∈ own.map .client) :
    Accepted purpose.number (dispatchedIn (clientEvents events)) := by
  obtain ⟨event, hevent, he⟩ := List.mem_map.mp sent
  cases he
  rcases made.message (mem_messagesIn.mpr hevent) with
    ⟨purpose', id, sending⟩ | ⟨other, notifying, same⟩
  · -- the first message for a request is the request itself
    obtain ⟨_, params, own, within⟩ :=
      h.position.within (by rw [sending]; simp) (by rw [sending]; rfl)
    rw [sending] at within
    exact absurd within.of_sending.symm (Purpose.request_ne_notification _ _ _ _)
  · obtain rfl := Purpose.notification_injective same
    exact h.answered purpose notifying

/-- An answer among what has happened stays one. -/
theorem accepted_append {id : Nat} (more : List Event)
    (h : Accepted id (dispatchedIn (clientEvents events))) :
    Accepted id (dispatchedIn (clientEvents (events ++ more))) := by
  rw [clientEvents_append, dispatchedIn_append]
  exact h.append _

/-- **Every step keeps the invariant of an engagement.** -/
theorem step (h : Standing processId workspace storage events e) (made : Made e f new) :
    Standing processId workspace storage (events ++ new) f := by
  have position := h.position.step h.process made
  rw [← messagesIn_append, ← clientEvents_append] at position
  cases made with
  | shared =>
      rw [List.append_nil] at position ⊢
      exact ⟨h.process, h.workspace, h.storage, position, h.ledger, h.answered, h.notified,
        h.subscribed⟩
  | subscribed at_ =>
      refine ⟨h.process, h.workspace, h.storage, position, ?_, ?_, fun purpose => ?_,
        fun number => ?_⟩
      · simpa using h.ledger
      · simpa using h.answered
      · exact (h.notified purpose).append (fun more => accepted_append more) (by simp [sends])
      -- the conversation is open, so both messages of the greeting have been sent
      · refine (h.subscribed number).append (fun more => List.mem_append_left more) fun _ => ?_
        obtain ⟨uri, -, -, -, both⟩ := h.position.of_opened (.inl at_)
        have sent : initialized ∈ messagesIn (clientEvents events) := by
          simp [both, greeting]
        exact mem_clientEvents.mp (mem_messagesIn.mp sent)
  | @played action stage conversation own subscriptions plays made =>
      have step := Conversation.step_sound made
      obtain ⟨moves, ledger, same⟩ := h.ledger
      refine ⟨step.processId_eq.trans h.process, h.workspace, h.storage, position,
        ⟨_, ledger.step step, ?_⟩, fun purpose notifying => ?_, fun purpose => ?_, fun number => ?_⟩
      · simp [same]
      · rw [clientEvents_append, clientEvents_map]
        exact h.answered_step step notifying
      · exact (h.notified purpose).append (fun more => accepted_append more) (h.notified_step step)
      · exact (h.subscribed number).append (fun more => List.mem_append_left more) (by simp)

/-- The invariant holds after every history of an engagement. -/
theorem of_history {capacity : Nat} {subscriptions : Subscriptions}
    {moves : List (Move Engagement Action Event)}
    (h : History Engagement.step
      (Engagement.fresh processId capacity workspace storage subscriptions) moves e) :
    Standing processId workspace storage (eventsOf moves) e := by
  induction h with
  | nil => exact fresh processId capacity workspace storage subscriptions
  | concat _ made ih =>
      rw [eventsOf_append, eventsOf_singleton]
      exact ih.step (step_sound made)

end Standing

/-- **The client's messages come in order, each notification after its answer.** Whatever the server
does and however the parties are interleaved, and whatever else happens to the subscriptions of the
context: what the client has put into the queue on its own account is the first part of the four
messages; `initialized` is put there after a response to the first request without an error was
dispatched, `exit` after one to the second; and the client becomes a subscription after
`initialized` was put into the queue. -/
theorem messages_in_order {processId : Value} {capacity : Nat} {workspace storage : FilePath}
    {subscriptions : Subscriptions} {moves : List (Move Engagement Action Event)} {e : Engagement}
    (h : History step (fresh processId capacity workspace storage subscriptions) moves e) :
    messagesIn (clientEvents (eventsOf moves)) <+: handshake processId workspace storage ∧
      (∀ before after, eventsOf moves = before ++ sends initialized :: after →
        Accepted 1 (dispatchedIn (clientEvents before))) ∧
      (∀ before after, eventsOf moves = before ++ sends «exit» :: after →
        Accepted 2 (dispatchedIn (clientEvents before))) ∧
      (∀ before number after, eventsOf moves = before ++ .subscribed number :: after →
        sends initialized ∈ before) := by
  have standing := Standing.of_history h
  refine ⟨?_, standing.notified .opening, standing.notified .closing,
    fun before number => standing.subscribed number before⟩
  rw [← standing.workspace, ← standing.storage]
  exact standing.position.isPrefix

/-- The answer to a request, with no result. -/
def answer (id : Int) : Value := .object [("id", .int id), ("result", .null)]

/-- The conversation is opened, the client becomes a subscription, and it is disposed of; the server
answers both requests. -/
def wholeConversation : List Action :=
  [.activator, .party .caller, .party .caller, .server (.write (Frame.encode (answer 1))),
    .party .reader, .party .reader, .party .caller, .party .caller, .activator, .release,
    .party .caller, .party .caller, .server (.write (Frame.encode (answer 2))),
    .party .reader, .party .reader, .party .caller, .party .caller]

/-- An engagement about the root directory. -/
def rootEngagement : Engagement := fresh .null 4096 (.ofString "/") (.ofString "/storage") .empty

/-- The client sends all four messages, and the last one after the answer to the second request. -/
theorem messages_in_order_whole :
    messagesIn (clientEvents (eventsOf (movesOf step rootEngagement wholeConversation))) =
        greeting .null "file:///" (.ofString "/storage") ++ farewell ∧
      messagesIn (clientEvents (eventsOf (movesOf step rootEngagement wholeConversation))) <+:
        handshake .null (.ofString "/") (.ofString "/storage") ∧
      Accepted 2 (dispatchedIn (clientEvents
        (eventsOf (movesOf step rootEngagement wholeConversation)).dropLast)) := by
  have ordered := messages_in_order (.of_actions step rootEngagement wholeConversation)
  exact ⟨rfl, ordered.1, ordered.2.2.1 _ [] rfl⟩

end ToolingHost.Activation.Engagement
