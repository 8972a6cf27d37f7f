import ToolingHost.Client.Conversation
import ToolingHost.Proofs.History

/-! # What a step of a conversation can do

`Conversation.step` is a function of the whole state. Here its steps are listed one by one, each
with the state in which it is possible, the state that it leads to, and what happens in it:
`CallerStep`, `ReaderStep` and `WriterStep` for the parties, and `Step` for all actions. A step of
the function is a step in the list (`step_sound`), so a property of all runs needs one case for each
entry and never looks at the function again. The runs of a conversation are its histories
(`run_eq_some_iff`).

Of what happens in a step, `dispatchedIn` keeps the messages of the server and `ordersOf` the orders
of one party. -/

namespace ToolingHost.Client

open ToolingHost.Json

namespace Purpose

/-- What the caller does once a request is over: nothing, or it goes on to end the server. -/
def afterwards : Purpose → CallerState
  | .opening => .idle
  | .closing => .stopping

/-- The message with which a request is made. -/
def request (purpose : Purpose) (id : Nat) (params : Option Value) : Value :=
  Rpc.Request.toValue ⟨id, purpose.method, params⟩

/-- What happens when a request has failed: only the call that opens the conversation returns. -/
def failed (failure : Failure) : Purpose → List Event
  | .opening => [.returned (.failed failure)]
  | .closing => []

/-- What happens when the notification after a request was sent or could not be sent. -/
def announced (sent : Bool) : Purpose → List Event
  | .opening => [.returned (if sent then .opened else .failed .queueClosed)]
  | .closing => []

end Purpose

/-! ## What happened -/

/-- The message of the server that was taken, if the event is that. -/
def Event.dispatched? : Event → Option Value
  | .dispatched frame => some frame
  | _ => none

/-- The order that a party put into the queue, if the event is that. -/
def Event.order? (party : Party) : Event → Option Order
  | .queued by_ order => if by_ = party then some order else none
  | _ => none

/-- The messages of the server that were taken, in order. -/
def dispatchedIn (events : List Event) : List Value := events.filterMap Event.dispatched?

/-- The orders that a party put into the queue, in order. -/
def ordersOf (party : Party) (events : List Event) : List Order :=
  events.filterMap (Event.order? party)

/-- No message is taken when nothing happens. -/
@[simp] theorem dispatchedIn_nil : dispatchedIn [] = [] := rfl

/-- Messages are taken one after the other. -/
@[simp] theorem dispatchedIn_append (first second : List Event) :
    dispatchedIn (first ++ second) = dispatchedIn first ++ dispatchedIn second :=
  List.filterMap_append

/-- A message that is taken comes before those that follow. -/
@[simp] theorem dispatchedIn_cons (event : Event) (rest : List Event) :
    dispatchedIn (event :: rest) = event.dispatched?.toList ++ dispatchedIn rest := by
  unfold dispatchedIn
  cases h : event.dispatched? <;> simp [h]

/-- No order is given when nothing happens. -/
@[simp] theorem ordersOf_nil (party : Party) : ordersOf party [] = [] := rfl

/-- Orders are given one after the other. -/
@[simp] theorem ordersOf_append (party : Party) (first second : List Event) :
    ordersOf party (first ++ second) = ordersOf party first ++ ordersOf party second :=
  List.filterMap_append

/-- An order that is given comes before those that follow. -/
@[simp] theorem ordersOf_cons (party : Party) (event : Event) (rest : List Event) :
    ordersOf party (event :: rest) = (event.order? party).toList ++ ordersOf party rest := by
  unfold ordersOf
  cases h : event.order? party <;> simp [h]

/-- What a party writes into the log is no message of the server. -/
@[simp] theorem dispatchedIn_logged (party : Party) (records : List Log.Record) :
    dispatchedIn (records.map (Event.logged party)) = [] := by
  induction records with
  | nil => rfl
  | cons record rest ih =>
      rw [List.map_cons, dispatchedIn_cons, ih]
      rfl

/-- What a party writes into the log is no order. -/
@[simp] theorem ordersOf_logged (party by_ : Party) (records : List Log.Record) :
    ordersOf party (records.map (Event.logged by_)) = [] := by
  induction records with
  | nil => rfl
  | cons record rest ih =>
      rw [List.map_cons, ordersOf_cons, ih]
      rfl

namespace Purpose

/-- A request that fails takes no message of the server. -/
@[simp] theorem dispatchedIn_failed (purpose : Purpose) (failure : Failure) :
    dispatchedIn (purpose.failed failure) = [] := by
  cases purpose <;> rfl

/-- A request that fails gives no order. -/
@[simp] theorem ordersOf_failed (party : Party) (purpose : Purpose) (failure : Failure) :
    ordersOf party (purpose.failed failure) = [] := by
  cases purpose <;> rfl

/-- The end of a request takes no message of the server. -/
@[simp] theorem dispatchedIn_announced (purpose : Purpose) (sent : Bool) :
    dispatchedIn (purpose.announced sent) = [] := by
  cases purpose <;> rfl

/-- The end of a request gives no order apart from the notification. -/
@[simp] theorem ordersOf_announced (party : Party) (purpose : Purpose) (sent : Bool) :
    ordersOf party (purpose.announced sent) = [] := by
  cases purpose <;> rfl

end Purpose

/-! ## The steps -/

namespace Conversation

/-- The caller gives up in the same way whatever it waited for. -/
theorem giveUp_eq (s : Conversation) (failure : Failure) (purpose : Purpose) :
    s.giveUp failure purpose = (s.callerAt purpose.afterwards, purpose.failed failure) := by
  cases purpose <;> rfl

/-- The notification ends the request, whether or not it could be sent. -/
theorem notified_eq (s : Conversation) (sent : Bool) (purpose : Purpose) :
    s.notified sent purpose = (s.callerAt purpose.afterwards, purpose.announced sent) := by
  cases purpose <;> rfl

end Conversation

/-- The steps of the caller. -/
inductive CallerStep (s : Conversation) : Conversation → List Event → Prop where
  /-- A request is not registered because the list of waiting requests is closed. -/
  | refused {purpose : Purpose} {params : Option Value}
      (at_ : s.caller = .registering purpose params) (unlocked : s.locked = false)
      (closed : s.closed = true) :
      CallerStep s { s with nextId := s.nextId + 1, caller := purpose.afterwards }
        (purpose.failed (.serverExited purpose.method))
  /-- A request is registered under the next number. -/
  | registered {purpose : Purpose} {params : Option Value}
      (at_ : s.caller = .registering purpose params) (unlocked : s.locked = false)
      (opened : s.closed = false) :
      CallerStep s { s with
        nextId := s.nextId + 1
        waiters := s.nextId :: s.waiters.filter (· != s.nextId)
        caller := .sending purpose s.nextId (purpose.request s.nextId params) } []
  /-- A registered request is put into the queue. -/
  | sent {purpose : Purpose} {id : Nat} {message : Value}
      (at_ : s.caller = .sending purpose id message) (opened : s.queueOpen = true)
      (room : s.hasRoom = true) :
      CallerStep s { s with queue := s.queue ++ [.send message], caller := .waiting purpose id }
        [.queued .caller (.send message)]
  /-- A registered request cannot be put into the queue. -/
  | unsent {purpose : Purpose} {id : Nat} {message : Value}
      (at_ : s.caller = .sending purpose id message) (shut : s.queueOpen = false) :
      CallerStep s { s with caller := .withdrawing purpose id .queueClosed } []
  /-- The answer is taken, and it is no refusal. -/
  | accepted {purpose : Purpose} {id : Nat} {body : Value}
      (at_ : s.caller = .waiting purpose id) (found : s.delivered.lookup id = some body)
      (fine : refusal? body = none) :
      CallerStep s { s with caller := .notifying purpose } []
  /-- The answer is taken, and it is a refusal. -/
  | rejected {purpose : Purpose} {id : Nat} {body : Value} {reason : String}
      (at_ : s.caller = .waiting purpose id) (found : s.delivered.lookup id = some body)
      (refusal : refusal? body = some reason) :
      CallerStep s { s with caller := purpose.afterwards } (purpose.failed (.refused reason))
  /-- The request has no answer and is not registered any more. -/
  | orphaned {purpose : Purpose} {id : Nat}
      (at_ : s.caller = .waiting purpose id) (missing : s.delivered.lookup id = none)
      (gone : s.waiters.contains id = false) :
      CallerStep s { s with caller := .withdrawing purpose id (.serverExited purpose.method) } []
  /-- A request that failed is withdrawn. -/
  | withdrawn {purpose : Purpose} {id : Nat} {failure : Failure}
      (at_ : s.caller = .withdrawing purpose id failure) (unlocked : s.locked = false) :
      CallerStep s
        { s with waiters := s.waiters.filter (· != id), caller := purpose.afterwards }
        (purpose.failed failure)
  /-- The notification after an answer is put into the queue. -/
  | notified {purpose : Purpose}
      (at_ : s.caller = .notifying purpose) (opened : s.queueOpen = true)
      (room : s.hasRoom = true) :
      CallerStep s { s with
        queue := s.queue ++ [.send purpose.notification.toValue]
        caller := purpose.afterwards }
        (.queued .caller (.send purpose.notification.toValue) :: purpose.announced true)
  /-- The notification after an answer cannot be put into the queue. -/
  | unnotified {purpose : Purpose}
      (at_ : s.caller = .notifying purpose) (shut : s.queueOpen = false) :
      CallerStep s { s with caller := purpose.afterwards } (purpose.announced false)
  /-- The order to stop is put into the queue. -/
  | stopped (at_ : s.caller = .stopping) (opened : s.queueOpen = true) (room : s.hasRoom = true) :
      CallerStep s { s with queue := s.queue ++ [.stop], caller := .reaping }
        [.queued .caller .stop]
  /-- The order to stop cannot be put into the queue. -/
  | unstopped (at_ : s.caller = .stopping) (shut : s.queueOpen = false) :
      CallerStep s { s with caller := .reaping } []
  /-- The server has ended. -/
  | reaped (at_ : s.caller = .reaping) (dead : s.link.alive = false) :
      CallerStep s { s with caller := .gone } [.returned .closed]

/-- What the reader does with a message, apart from writing into the log; `buffer` is what it has
read behind the message. -/
inductive Dispatched (s : Conversation) (frame : Value) (buffer : Bytes) :
    Conversation → Prop where
  /-- The message asks for nothing. -/
  | ignored (reaction : (react s.name frame).1 = .none) :
      Dispatched s frame buffer { s with reader := .reading buffer }
  /-- The message is a request, and its reply is ready. -/
  | asked {message : Value} (reaction : (react s.name frame).1 = .reply message) :
      Dispatched s frame buffer { s with reader := .replying message buffer }
  /-- The message is the answer to a request that waits for it. -/
  | delivered {id : Nat} {body : Value} (reaction : (react s.name frame).1 = .deliver id body)
      (waiting : s.waiters.contains id = true) :
      Dispatched s frame buffer { s with
        reader := .reading buffer
        waiters := s.waiters.filter (· != id)
        delivered := (id, body) :: s.delivered }
  /-- The message is an answer that nobody waits for. -/
  | lost {id : Nat} {body : Value} (reaction : (react s.name frame).1 = .deliver id body)
      (unknown : s.waiters.contains id = false) :
      Dispatched s frame buffer { s with reader := .reading buffer }

/-- What happens when a message is dispatched. -/
def dispatchEvents (name : String) (frame : Value) : List Event :=
  .dispatched frame :: (react name frame).2.map (Event.logged .reader)

/-- The message itself is what is taken. -/
@[simp] theorem dispatchedIn_dispatchEvents (name : String) (frame : Value) :
    dispatchedIn (dispatchEvents name frame) = [frame] := by
  simp [dispatchEvents, Event.dispatched?]

/-- Taking a message gives no order yet. -/
@[simp] theorem ordersOf_dispatchEvents (party : Party) (name : String) (frame : Value) :
    ordersOf party (dispatchEvents name frame) = [] := by
  simp [dispatchEvents, Event.order?]

/-- The steps of the reader. -/
inductive ReaderStep (s : Conversation) : Conversation → List Event → Prop where
  /-- The list of waiting requests, already closed, is emptied. -/
  | cleared (at_ : s.reader = .clearing) :
      ReaderStep s { s with
        waiters := []
        reader := .ended
        link := { s.link with output := { s.link.output with readable := false } } } []
  /-- A reply is put into the queue. -/
  | replied {message : Value} {buffer : Bytes} (at_ : s.reader = .replying message buffer)
      (opened : s.queueOpen = true) (room : s.hasRoom = true) :
      ReaderStep s { s with queue := s.queue ++ [.send message], reader := .reading buffer }
        [.queued .reader (.send message)]
  /-- A reply cannot be put into the queue. -/
  | unreplied {message : Value} {buffer : Bytes} (at_ : s.reader = .replying message buffer)
      (shut : s.queueOpen = false) : ReaderStep s { s with reader := .reading buffer } []
  /-- A message is dispatched. -/
  | dispatched {t : Conversation} {frame : Value} {buffer rest : Bytes}
      (at_ : s.reader = .reading buffer)
      (read : Frame.read? s.link.output.ended buffer = some (.message frame, rest))
      (dispatch : Dispatched s frame rest t) : ReaderStep s t (dispatchEvents s.name frame)
  /-- The output of the server has ended or cannot be read: the list of requests is closed. -/
  | closed {record : Log.Record} {buffer : Bytes} (at_ : s.reader = .reading buffer) :
      ReaderStep s { s with closed := true, reader := .clearing } [.logged .reader record]
  /-- More bytes are read. -/
  | fetched {buffer : Bytes} (at_ : s.reader = .reading buffer)
      (more : s.link.output.content.isEmpty = false) :
      ReaderStep s { s with
        reader := .reading (buffer ++ s.link.output.content)
        link := { s.link with output := { s.link.output with content := [] } } } []

/-- The steps of the writer. -/
inductive WriterStep (s : Conversation) : Conversation → List Event → Prop where
  /-- A message is taken from the queue. -/
  | taken {message : Value} {rest : List Order} (at_ : s.writer = .receiving)
      (first : s.queue = .send message :: rest) :
      WriterStep s { s with queue := rest, writer := .writing (Frame.encode message) } []
  /-- The order to stop is taken from the queue. -/
  | stopped {rest : List Order} (at_ : s.writer = .receiving) (first : s.queue = .stop :: rest) :
      WriterStep s (Conversation.endWriter { s with queue := rest }) []
  /-- The queue is empty and nobody will put anything into it. -/
  | unattended (at_ : s.writer = .receiving) (empty : s.queue = [])
      (alone : s.unattended = true) : WriterStep s s.endWriter []
  /-- A message has been written. -/
  | finished (at_ : s.writer = .writing []) : WriterStep s { s with writer := .receiving } []
  /-- A message cannot be written. -/
  | failed {byte : UInt8} {bytes : Bytes} (at_ : s.writer = .writing (byte :: bytes))
      (broken : s.link.input.readable = false) :
      WriterStep s s.endWriter [.logged .writer (Conversation.unwritableRecord s.name)]
  /-- Some bytes of a message are written, as many as there is room for. -/
  | wrote {byte : UInt8} {bytes : Bytes} (at_ : s.writer = .writing (byte :: bytes))
      (whole : s.link.input.readable = true) (room : s.link.input.room s.link.capacity ≠ 0) :
      WriterStep s { s with
        writer := .writing ((byte :: bytes).drop (s.link.input.room s.link.capacity))
        link := { s.link with
          input := s.link.input.write ((byte :: bytes).take (s.link.input.room s.link.capacity)) } }
        [.wrote ((byte :: bytes).take (s.link.input.room s.link.capacity))]

/-- The steps of a conversation. -/
inductive Step (s : Conversation) : Action → Conversation → List Event → Prop where
  /-- A conversation cannot be opened about a workspace that has no URI. -/
  | unlocatable {workspace storage : FilePath} (at_ : s.caller = .idle)
      (unnamed : FileUri.ofPath? workspace = none) :
      Step s (.call (.open workspace storage)) s [.returned (.failed (.workspace workspace))]
  /-- The caller is asked to open the conversation. -/
  | opening {workspace storage : FilePath} {uri : String} (at_ : s.caller = .idle)
      (named : FileUri.ofPath? workspace = some uri) :
      Step s (.call (.open workspace storage))
        { s with caller :=
            .registering .opening (some (Rpc.handshakeParams s.processId uri storage)) } []
  /-- The caller is asked to close the conversation. -/
  | closing (at_ : s.caller = .idle) :
      Step s (.call .close) { s with caller := .registering .closing none }
        [.logged .caller (Conversation.closingRecord s.name)]
  /-- The client is given up. -/
  | abandoned (at_ : s.caller = .idle) :
      Step s .abandon { s with caller := .gone, link := s.link.kill } []
  /-- The caller makes a step. -/
  | caller {t : Conversation} {events : List Event} (own : CallerStep s t events) :
      Step s (.party .caller) t events
  /-- The reader makes a step. -/
  | reader {t : Conversation} {events : List Event} (own : ReaderStep s t events) :
      Step s (.party .reader) t events
  /-- The writer makes a step. -/
  | writer {t : Conversation} {events : List Event} (own : WriterStep s t events) :
      Step s (.party .writer) t events
  /-- The answer to a request has taken too long. -/
  | expired {purpose : Purpose} {id : Nat} (at_ : s.caller = .waiting purpose id)
      (waiting : s.waiters.contains id = true) (missing : s.delivered.lookup id = none) :
      Step s .expire
        { s with caller := .withdrawing purpose id (.timedOut purpose.method purpose.patience) } []
  /-- The end of the server has taken too long. -/
  | killed (at_ : s.caller = .reaping) (alive : s.link.alive = true) :
      Step s .expire { s with link := s.link.kill, caller := .gone }
        [.logged .caller (Conversation.killingRecord s.name), .returned .closed]
  /-- The server makes a move. -/
  | server {move : ServerMove} {link : Link} (moved : s.link.move? move = some link) :
      Step s (.server move) { s with link } []

/-! ## What a party leaves alone -/

section Frame

variable {s t : Conversation} {action : Action} {events : List Event}

/-- A message that is dispatched does not move the caller. -/
theorem Dispatched.caller_eq {frame : Value} {buffer : Bytes}
    (own : Dispatched s frame buffer t) : t.caller = s.caller := by
  cases own <;> rfl

/-- The reader does not move the caller. -/
theorem ReaderStep.caller_eq (own : ReaderStep s t events) : t.caller = s.caller := by
  cases own with
  | dispatched _ _ own => exact own.caller_eq
  | _ => rfl

/-- The writer does not move the caller. -/
theorem WriterStep.caller_eq (own : WriterStep s t events) : t.caller = s.caller := by
  cases own <;> rfl

/-- The caller does not move the reader. -/
theorem CallerStep.reader_eq (own : CallerStep s t events) : t.reader = s.reader := by
  cases own <;> rfl

/-- The writer does not move the reader. -/
theorem WriterStep.reader_eq (own : WriterStep s t events) : t.reader = s.reader := by
  cases own <;> rfl

/-- The caller does not move the writer. -/
theorem CallerStep.writer_eq (own : CallerStep s t events) : t.writer = s.writer := by
  cases own <;> rfl

/-- A message that is dispatched does not move the writer. -/
theorem Dispatched.writer_eq {frame : Value} {buffer : Bytes}
    (own : Dispatched s frame buffer t) : t.writer = s.writer := by
  cases own <;> rfl

/-- The reader does not move the writer. -/
theorem ReaderStep.writer_eq (own : ReaderStep s t events) : t.writer = s.writer := by
  cases own with
  | dispatched _ _ own => exact own.writer_eq
  | _ => rfl

/-- The caller takes no message of the server. -/
theorem CallerStep.dispatchedIn_eq (own : CallerStep s t events) : dispatchedIn events = [] := by
  cases own <;> simp [Event.dispatched?]

/-- The writer takes no message of the server. -/
theorem WriterStep.dispatchedIn_eq (own : WriterStep s t events) : dispatchedIn events = [] := by
  cases own <;> simp [Event.dispatched?]

/-- The caller gives no order of the reader. -/
theorem CallerStep.ordersOf_reader (own : CallerStep s t events) :
    ordersOf .reader events = [] := by
  cases own <;> simp [Event.order?]

/-- The writer gives no order. -/
theorem WriterStep.ordersOf_eq (own : WriterStep s t events) (party : Party) :
    ordersOf party events = [] := by
  cases own <;> simp [Event.order?]

/-- The caller hands no answer over. -/
theorem CallerStep.delivered_eq (own : CallerStep s t events) : t.delivered = s.delivered := by
  cases own <;> rfl

/-- The writer hands no answer over. -/
theorem WriterStep.delivered_eq (own : WriterStep s t events) : t.delivered = s.delivered := by
  cases own <;> rfl

/-- No step changes what identifies the client's own process. -/
theorem Step.processId_eq (made : Step s action t events) : t.processId = s.processId := by
  cases made with
  | caller own => cases own <;> rfl
  | reader own =>
      cases own with
      | dispatched _ _ own => cases own <;> rfl
      | _ => rfl
  | writer own => cases own <;> rfl
  | _ => rfl

/-- A queue that is open after a step was open before it: a writer that has ended does not start
again. -/
theorem Step.queueOpen (made : Step s action t events) (opened : t.queueOpen = true) :
    s.queueOpen = true := by
  unfold Conversation.queueOpen at opened ⊢
  cases made with
  | caller own => exact own.writer_eq ▸ opened
  | reader own => exact own.writer_eq ▸ opened
  | writer own => cases own <;> simp_all
  | _ => exact opened

end Frame

namespace Conversation

/-! ## Every step is in the list -/

variable {s t : Conversation} {events : List Event}

/-- An order of the caller is accepted by an open queue that has room, and refused by a closed one.
-/
theorem submit_cases {order : Order} {accepted refused : Conversation → Conversation × List Event}
    (h : s.submit order accepted refused = some (t, events)) :
    (s.queueOpen = true ∧ s.hasRoom = true ∧ t = (accepted (s.enqueue order)).1 ∧
        events = .queued .caller order :: (accepted (s.enqueue order)).2) ∨
      (s.queueOpen = false ∧ refused s = (t, events)) := by
  unfold submit at h
  cases shut : s.queueOpen with
  | false =>
      rw [shut] at h
      exact .inr ⟨rfl, Option.some.inj h⟩
  | true =>
      rw [shut] at h
      cases room : s.hasRoom with
      | false => simp [room] at h
      | true =>
          simp only [room, Bool.not_true, Bool.false_eq_true, if_false, if_true,
            Option.some.injEq, Prod.mk.injEq] at h
          exact .inl ⟨rfl, rfl, h.1.symm, h.2.symm⟩

/-- Every step of the caller is in the list. -/
theorem stepCaller_sound (h : s.stepCaller = some (t, events)) : CallerStep s t events := by
  unfold stepCaller at h
  -- what the caller is doing decides; where it needs the list of requests or room, it may wait
  cases hc : s.caller with
  | idle => simp [hc] at h
  | gone => simp [hc] at h
  | registering purpose params =>
      simp only [hc] at h
      by_cases unlocked : s.locked = true
      · rw [if_pos unlocked] at h
        cases h
      rw [if_neg unlocked] at h
      rw [Bool.not_eq_true] at unlocked
      by_cases closed : s.closed = true
      · rw [if_pos closed, giveUp_eq] at h
        cases h
        exact .refused hc unlocked closed
      · rw [if_neg closed] at h
        cases h
        exact .registered hc unlocked (Bool.not_eq_true _ ▸ closed)
  | sending purpose id message =>
      simp only [hc] at h
      obtain ⟨opened, room, rfl, rfl⟩ | ⟨shut, he⟩ := submit_cases h
      · exact .sent hc opened room
      · cases he
        exact .unsent hc shut
  | waiting purpose id =>
      simp only [hc] at h
      cases found : s.delivered.lookup id with
      | some body =>
          simp only [found, answered, Option.some.injEq] at h
          cases refusal : refusal? body with
          | none =>
              rw [refusal] at h
              cases h
              exact .accepted hc found refusal
          | some reason =>
              simp only [refusal, giveUp_eq] at h
              cases h
              exact .rejected hc found refusal
      | none =>
          simp only [found] at h
          by_cases waiting : s.waiters.contains id = true
          · rw [if_pos waiting] at h
            cases h
          · rw [if_neg waiting] at h
            cases h
            exact .orphaned hc found (Bool.not_eq_true _ ▸ waiting)
  | withdrawing purpose id failure =>
      simp only [hc] at h
      cases unlocked : s.locked with
      | true => simp [unlocked] at h
      | false =>
          simp only [unlocked, Bool.false_eq_true, if_false, giveUp_eq, Option.some.injEq] at h
          cases h
          exact .withdrawn hc unlocked
  | notifying purpose =>
      simp only [hc] at h
      obtain ⟨opened, room, rfl, rfl⟩ | ⟨shut, he⟩ := submit_cases h
      · rw [notified_eq]
        exact .notified hc opened room
      · rw [notified_eq] at he
        cases he
        exact .unnotified hc shut
  | stopping =>
      simp only [hc] at h
      obtain ⟨opened, room, rfl, rfl⟩ | ⟨shut, he⟩ := submit_cases h
      · exact .stopped hc opened room
      · cases he
        exact .unstopped hc shut
  | reaping =>
      simp only [hc] at h
      cases dead : s.link.alive with
      | true => simp [dead] at h
      | false =>
          simp only [dead, Bool.false_eq_true, if_false, Option.some.injEq] at h
          cases h
          exact .reaped hc dead

/-- What happens when a message is dispatched depends on the message and the name alone. -/
theorem dispatch_snd (s : Conversation) (frame : Value) (buffer : Bytes) :
    (s.dispatch frame buffer).2 = dispatchEvents s.name frame := by
  unfold dispatch dispatchEvents
  rcases react s.name frame with ⟨reaction, records⟩
  cases reaction with
  | none => rfl
  | reply message => rfl
  | deliver id body =>
      dsimp only
      split <;> rfl

/-- What the reader does with a message is in the list. -/
theorem dispatch_sound (s : Conversation) (frame : Value) (buffer : Bytes) :
    Dispatched s frame buffer (s.dispatch frame buffer).1 := by
  unfold dispatch
  rcases hr : react s.name frame with ⟨reaction, records⟩
  cases reaction with
  | none => exact .ignored (by rw [hr])
  | reply message => exact .asked (by rw [hr])
  | deliver id body =>
      dsimp only
      cases waiting : s.waiters.contains id with
      | true => exact .delivered (by rw [hr]) waiting
      | false => exact .lost (by rw [hr]) waiting

/-- Every step of the reader is in the list. -/
theorem stepReader_sound (h : s.stepReader = some (t, events)) : ReaderStep s t events := by
  unfold stepReader at h
  cases hr : s.reader with
  | ended => simp [hr] at h
  | clearing =>
      simp only [hr, Option.some.injEq] at h
      cases h
      exact .cleared hr
  | replying message buffer =>
      simp only [hr] at h
      cases opened : s.queueOpen with
      | false =>
          simp only [opened, Bool.not_false, if_true, Option.some.injEq] at h
          cases h
          exact .unreplied hr opened
      | true =>
          cases room : s.hasRoom with
          | false => simp [opened, room] at h
          | true =>
              simp only [opened, room, Bool.not_true, Bool.false_eq_true, if_false, if_true,
                Option.some.injEq] at h
              cases h
              exact .replied hr opened room
  | reading buffer =>
      simp only [hr] at h
      -- without a whole message in the buffer it reads more, if there is more
      rcases read : Frame.read? s.link.output.ended buffer with _ | ⟨outcome, rest⟩
      · cases more : s.link.output.content.isEmpty with
        | true => simp [read, more] at h
        | false =>
            simp only [read, more, Bool.false_eq_true, if_false, Option.some.injEq] at h
            cases h
            exact .fetched hr more
      · cases outcome with
        | message frame =>
            simp only [read, Option.some.injEq] at h
            have dispatched := dispatch_sound s frame rest
            have logged := dispatch_snd s frame rest
            rw [h] at dispatched logged
            rw [show events = dispatchEvents s.name frame from logged]
            exact .dispatched hr read dispatched
        | ended =>
            simp only [read, Option.some.injEq] at h
            cases h
            exact .closed hr
        | failed e =>
            simp only [read, Option.some.injEq] at h
            cases h
            exact .closed hr

/-- Every step of the writer is in the list. -/
theorem stepWriter_sound (h : s.stepWriter = some (t, events)) : WriterStep s t events := by
  unfold stepWriter at h
  -- it takes an order, or goes on with the bytes that it is writing, or has stopped
  rcases hw : s.writer with _ | (_ | ⟨byte, bytes⟩) | _
  · simp only [hw] at h
    rcases hq : s.queue with _ | ⟨_ | _, rest⟩
    · simp only [hq] at h
      by_cases alone : s.unattended = true
      · rw [if_pos alone] at h
        cases h
        exact .unattended hw hq alone
      · rw [if_neg alone] at h
        cases h
    · simp only [hq] at h
      cases h
      exact .taken hw hq
    · simp only [hq] at h
      cases h
      exact .stopped hw hq
  · simp only [hw] at h
    cases h
    exact .finished hw
  · simp only [hw] at h
    by_cases whole : s.link.input.readable = true
    · rw [if_neg (by simp [whole])] at h
      by_cases full : s.link.input.room s.link.capacity = 0
      · rw [if_pos full] at h
        cases h
      · rw [if_neg full] at h
        cases h
        exact .wrote hw whole full
    · rw [if_pos (by simp [whole])] at h
      cases h
      exact .failed hw (Bool.not_eq_true _ ▸ whole)
  · simp only [hw] at h
    cases h

/-- What the expiry of a time limit does is in the list. -/
theorem expire_sound (h : s.expire = some (t, events)) : Step s .expire t events := by
  unfold expire at h
  cases hc : s.caller with
  | waiting purpose id =>
      simp only [hc] at h
      by_cases waiting : (s.waiters.contains id && (s.delivered.lookup id).isNone) = true
      · rw [if_pos waiting] at h
        cases h
        rw [Bool.and_eq_true, Option.isNone_iff_eq_none] at waiting
        exact .expired hc waiting.1 waiting.2
      · rw [if_neg waiting] at h
        cases h
  | reaping =>
      simp only [hc] at h
      by_cases alive : s.link.alive = true
      · rw [if_pos alive] at h
        cases h
        exact .killed hc alive
      · rw [if_neg alive] at h
        cases h
  | idle | registering | sending | withdrawing | notifying | stopping | gone =>
      simp only [hc] at h
      cases h

/-- **Every step of a conversation is in the list.** -/
theorem step_sound {action : Action} (h : s.step action = some (t, events)) :
    Step s action t events := by
  cases action with
  | call call =>
      -- only a caller that is idle can be asked for something
      rcases hc : s.caller with _ | _ | _ | _ | _ | _ | _ | _ | _
      case idle =>
        cases call with
        | «open» workspace storage =>
            rcases named : FileUri.ofPath? workspace with _ | uri
            · simp only [step, hc, Conversation.call, named] at h
              cases h
              exact .unlocatable hc named
            · simp only [step, hc, Conversation.call, named] at h
              cases h
              exact .opening hc named
        | close =>
            simp only [step, hc] at h
            cases h
            exact .closing hc
      all_goals
        simp only [step, hc] at h
        cases h
  | abandon =>
      rcases hc : s.caller with _ | _ | _ | _ | _ | _ | _ | _ | _
      case idle =>
        simp only [step, hc] at h
        cases h
        exact .abandoned hc
      all_goals
        simp only [step, hc] at h
        cases h
  | party party =>
      cases party with
      | caller => exact .caller (stepCaller_sound h)
      | reader => exact .reader (stepReader_sound h)
      | writer => exact .writer (stepWriter_sound h)
  | expire => exact expire_sound h
  | server move =>
      obtain ⟨link, moved, he⟩ := Option.map_eq_some_iff.mp h
      cases he
      exact .server moved

/-! ## Runs are histories -/

/-- The histories of a conversation that starts in a state. -/
abbrev History (start : Conversation) :
    List (Move Conversation Action Event) → Conversation → Prop :=
  ToolingHost.History step start

/-- **Runs are histories.** A run is possible, and ends and makes things happen as it does, exactly
when a history of its actions does. -/
theorem run_eq_some_iff {actions : List Action} :
    s.run actions = some (t, events) ↔
      ∃ moves, History s moves t ∧ moves.map Move.action = actions ∧ eventsOf moves = events := by
  constructor
  · intro h
    induction actions generalizing s events with
    | nil =>
        cases h
        exact ⟨[], .nil, rfl, rfl⟩
    | cons action rest ih =>
        rcases made : s.step action with _ | ⟨next, first⟩
        · simp [run, made] at h
        · rcases more : next.run rest with _ | ⟨last, after⟩
          · simp [run, made, more] at h
          · simp only [run, made, more] at h
            cases h
            obtain ⟨moves, history, rfl, rfl⟩ := ih more
            exact ⟨_, .cons made history, rfl, rfl⟩
  · rintro ⟨moves, history, rfl, rfl⟩
    induction history with
    | nil => rfl
    | @concat moves u v action after _ made ih =>
        have last : u.run [action] = some (v, after) := by simp [run, made]
        simpa using run_append ih last

end Conversation

end ToolingHost.Client
