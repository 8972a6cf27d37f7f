import ToolingHost.Client.Call
import ToolingHost.Client.Link
import ToolingHost.Client.Reaction
import ToolingHost.Frame.Reader
import ToolingHost.Frame.Header
import ToolingHost.Rpc.Message

/-! # A client and its server

Three parties work on one conversation. The caller sends requests and waits for answers, the reader
takes what the server sends, and the writer sends what the other two have put into a bounded queue.
The requests that wait for an answer are kept in a list that the caller and the reader share.
`Conversation.step` makes one step of one party, or of the server, or lets a time limit expire; a
run is any sequence of steps, so whatever holds of every step holds however the parties are
interleaved.

The reader ends when the output of the server ends or cannot be read. It then marks the list as
closed and empties it; the caller cannot look at the list in between. -/

namespace ToolingHost.Client

open ToolingHost.Json

/-- What the writer is asked to do. -/
inductive Order where
  /-- Send a message. -/
  | send (message : Value)
  /-- Stop. -/
  | stop

/-- How many orders the queue holds. -/
def queueCapacity : Nat := 64

/-- One of the parties on the client's side. -/
inductive Party where
  /-- The caller. -/
  | caller
  /-- The reader. -/
  | reader
  /-- The writer. -/
  | writer
  deriving DecidableEq, Repr

/-- What the caller is doing. -/
inductive CallerState where
  /-- It is between calls. -/
  | idle
  /-- It is about to register a request. -/
  | registering (purpose : Purpose) (params : Option Value)
  /-- It waits for room in the queue for a registered request. -/
  | sending (purpose : Purpose) (id : Nat) (message : Value)
  /-- It waits for the answer to a request. -/
  | waiting (purpose : Purpose) (id : Nat)
  /-- It is about to withdraw a request that failed. -/
  | withdrawing (purpose : Purpose) (id : Nat) (failure : Failure)
  /-- It waits for room in the queue for a notification. -/
  | notifying (purpose : Purpose)
  /-- It waits for room in the queue for the order to stop. -/
  | stopping
  /-- It waits for the server to end. -/
  | reaping
  /-- The client is gone. -/
  | gone

/-- What the reader is doing. -/
inductive ReaderState where
  /-- It reads, with bytes that it has read and not used yet. -/
  | reading (buffer : Bytes)
  /-- It waits for room in the queue for a reply. -/
  | replying (message : Value) (buffer : Bytes)
  /-- It has closed the list of requests and is about to empty it. -/
  | clearing
  /-- It has ended. -/
  | ended

/-- What the writer is doing. -/
inductive WriterState where
  /-- It waits for orders. -/
  | receiving
  /-- It writes the rest of a message. -/
  | writing (rest : Bytes)
  /-- It has ended, and with it the queue. -/
  | ended
  deriving DecidableEq, Repr

/-- A client and its link to the server. -/
structure Conversation where
  /-- The name of the client in messages. -/
  name : String
  /-- What identifies the client's own process. -/
  processId : Value
  /-- The number of the next request. That it could outgrow 64 bits is left out of account. -/
  nextId : Nat
  /-- Whether the list of waiting requests is closed. -/
  closed : Bool
  /-- The requests that wait for an answer. -/
  waiters : List Nat
  /-- The answers that were handed over. -/
  delivered : List (Nat × Value)
  /-- The orders that the writer has not taken yet, oldest first. -/
  queue : List Order
  /-- What the caller is doing. -/
  caller : CallerState
  /-- What the reader is doing. -/
  reader : ReaderState
  /-- What the writer is doing. -/
  writer : WriterState
  /-- The link to the server. -/
  link : Link

/-- Something that happened in a step. -/
inductive Event where
  /-- An order was put into the queue. -/
  | queued (party : Party) (order : Order)
  /-- Bytes were written to the server. -/
  | wrote (bytes : Bytes)
  /-- A message of the server was taken. -/
  | dispatched (frame : Value)
  /-- Something was written into the log. -/
  | logged (party : Party) (record : Log.Record)
  /-- A call returned. -/
  | returned (outcome : Outcome)

/-- What a call returned, if the event is that. -/
def Event.outcome? : Event → Option Outcome
  | .returned outcome => some outcome
  | _ => none

/-- What the first call that returned in the course of some events returned. -/
def returned? (events : List Event) : Option Outcome := events.findSome? Event.outcome?

/-- A step of a party, of the server, or of time. -/
inductive Action where
  /-- A call is made. -/
  | call (call : Call)
  /-- The client is given up without closing the conversation; the server is killed. -/
  | abandon
  /-- A party makes its next step. -/
  | party (party : Party)
  /-- The time limit of the caller expires. -/
  | expire
  /-- The server makes a move. -/
  | server (move : ServerMove)

/-- What comes of a step, if it is possible. -/
abbrev StepResult := Option (Conversation × List Event)

namespace Conversation

/-- A client whose server has just been started. -/
def fresh (name : String) (processId : Value) (capacity : Nat) : Conversation where
  name := name
  processId := processId
  nextId := 1
  closed := false
  waiters := []
  delivered := []
  queue := []
  caller := .idle
  reader := .reading []
  writer := .receiving
  link := .fresh capacity

/-- Whether the writer still takes orders. -/
def queueOpen (s : Conversation) : Bool :=
  match s.writer with
  | .ended => false
  | _ => true

/-- Whether the queue has room. -/
def hasRoom (s : Conversation) : Bool := s.queue.length < queueCapacity

/-- Whether the reader holds the list of waiting requests. -/
def locked (s : Conversation) : Bool :=
  match s.reader with
  | .clearing => true
  | _ => false

/-- The conversation with an order in the queue. -/
def enqueue (s : Conversation) (order : Order) : Conversation :=
  { s with queue := s.queue ++ [order] }

/-- The conversation with what the caller does next. -/
def callerAt (s : Conversation) (caller : CallerState) : Conversation := { s with caller := caller }

/-! ## The caller -/

/-- The record of a closing client. -/
def closingRecord (name : String) : Log.Record := record .info ("Shutting down " ++ name ++ "...")

/-- The record of a server that has to be killed. -/
def killingRecord (name : String) : Log.Record :=
  record .debug (name ++ " didn't exit in time, killing")

/-- Makes a call. -/
def call (s : Conversation) : Call → Conversation × List Event
  | .open workspace storage =>
    match FileUri.ofPath? workspace with
    | none => (s, [.returned (.failed (.workspace workspace))])
    | some uri =>
      (s.callerAt (.registering .opening (some (Rpc.handshakeParams s.processId uri storage))), [])
  | .close =>
    (s.callerAt (.registering .closing none), [.logged .caller (closingRecord s.name)])

/-- What the caller does when a request has failed: it returns, or goes on to end the server. -/
def giveUp (s : Conversation) (failure : Failure) : Purpose → Conversation × List Event
  | .opening => (s.callerAt .idle, [.returned (.failed failure)])
  | .closing => (s.callerAt .stopping, [])

/-- What the caller does with an answer. -/
def answered (s : Conversation) (body : Value) (purpose : Purpose) : Conversation × List Event :=
  match refusal? body with
  | none => (s.callerAt (.notifying purpose), [])
  | some reason => s.giveUp (.refused reason) purpose

/-- What the caller does once its notification has been sent or could not be sent. -/
def notified (s : Conversation) (sent : Bool) : Purpose → Conversation × List Event
  | .opening =>
    (s.callerAt .idle, [.returned (if sent then .opened else .failed .queueClosed)])
  | .closing => (s.callerAt .stopping, [])

/-- Puts an order of the caller into the queue if the queue is open; where it is not, `refused` is
what happens instead. -/
def submit (s : Conversation) (order : Order)
    (accepted refused : Conversation → Conversation × List Event) : StepResult :=
  if !s.queueOpen then some (refused s)
  else if s.hasRoom then
    let (next, events) := accepted (s.enqueue order)
    some (next, .queued .caller order :: events)
  else none

/-- The next step of the caller. -/
def stepCaller (s : Conversation) : StepResult :=
  match s.caller with
  | .idle | .gone => none
  | .registering purpose params =>
    if s.locked then none
    else
      let id := s.nextId
      -- the number is used up even if the list turns out to be closed
      let s := { s with nextId := id + 1 }
      if s.closed then some (s.giveUp (.serverExited purpose.method) purpose)
      else
        let message := Rpc.Request.toValue ⟨id, purpose.method, params⟩
        some ({ s with waiters := id :: s.waiters.filter (· != id),
                       caller := .sending purpose id message }, [])
  | .sending purpose id message =>
    s.submit (.send message) (fun s => (s.callerAt (.waiting purpose id), []))
      (fun s => (s.callerAt (.withdrawing purpose id .queueClosed), []))
  | .waiting purpose id =>
    match s.delivered.lookup id with
    | some body => some (s.answered body purpose)
    | none =>
      -- a request that has no answer and has left the list will never have one
      if s.waiters.contains id then none
      else
        some (s.callerAt (.withdrawing purpose id (.serverExited purpose.method)), [])
  | .withdrawing purpose id failure =>
    if s.locked then none
    else some (giveUp { s with waiters := s.waiters.filter (· != id) } failure purpose)
  | .notifying purpose =>
    s.submit (.send purpose.notification.toValue) (fun s => s.notified true purpose)
      (fun s => s.notified false purpose)
  | .stopping =>
    s.submit .stop (fun s => (s.callerAt .reaping, [])) (fun s => (s.callerAt .reaping, []))
  | .reaping =>
    if s.link.alive then none else some (s.callerAt .gone, [.returned .closed])

/-- What happens when the time limit of the caller expires: a request that nobody has answered is
given up, and a server that has not ended is killed. -/
def expire (s : Conversation) : StepResult :=
  match s.caller with
  | .waiting purpose id =>
    -- an answer that is already there wins over the time limit
    if s.waiters.contains id && (s.delivered.lookup id).isNone then
      some (s.callerAt
        (.withdrawing purpose id (.timedOut purpose.method purpose.patience)), [])
    else none
  | .reaping =>
    if s.link.alive then
      some ({ s with link := s.link.kill, caller := .gone },
        [.logged .caller (killingRecord s.name), .returned .closed])
    else none
  | _ => none

/-! ## The reader -/

/-- The record of a server that has closed its output. -/
def endedRecord (name : String) : Log.Record := record .info (name ++ ": server closed stdout")

/-- The record of output that cannot be read. -/
def unreadableRecord (name : String) (e : Frame.Error) : Log.Record :=
  record .warn (name ++ ": reader error: " ++ e.message)

/-- The conversation after the reader has closed the list of waiting requests. -/
def closeWaiters (s : Conversation) : Conversation := { s with closed := true, reader := .clearing }

/-- What the reader does with a message. An answer goes to the request that waits for it, and is
lost if none does or if the caller has given up waiting. -/
def dispatch (s : Conversation) (frame : Value) (buffer : Bytes) : Conversation × List Event :=
  let (reaction, records) := react s.name frame
  let events := .dispatched frame :: records.map (Event.logged .reader)
  match reaction with
  | .none => ({ s with reader := .reading buffer }, events)
  | .reply message => ({ s with reader := .replying message buffer }, events)
  | .deliver id body =>
    let s := { s with reader := .reading buffer }
    if s.waiters.contains id then
      ({ s with waiters := s.waiters.filter (· != id), delivered := (id, body) :: s.delivered },
        events)
    else (s, events)

/-- The next step of the reader. -/
def stepReader (s : Conversation) : StepResult :=
  match s.reader with
  | .ended => none
  | .clearing =>
    some ({ s with waiters := [], reader := .ended,
                   link := { s.link with output := { s.link.output with readable := false } } }, [])
  | .replying message buffer =>
    let next := { s with reader := .reading buffer }
    -- nobody is told of a reply that cannot be sent
    if !s.queueOpen then some (next, [])
    else if s.hasRoom then
      some (next.enqueue (.send message), [.queued .reader (.send message)])
    else none
  | .reading buffer =>
    match Frame.read? s.link.output.ended buffer with
    | some (.message frame, rest) => some (s.dispatch frame rest)
    -- the end comes only between messages; inside one it is a failure
    | some (.ended, _) => some (s.closeWaiters, [.logged .reader (endedRecord s.name)])
    -- the reader does not try to find the next message behind one that it cannot read
    | some (.failed e, _) => some (s.closeWaiters, [.logged .reader (unreadableRecord s.name e)])
    | none =>
      let output := s.link.output
      if output.content.isEmpty then none
      else
        some ({ s with reader := .reading (buffer ++ output.content),
                       link := { s.link with output := { output with content := [] } } }, [])

/-! ## The writer -/

/-- The record of a message that cannot be written. -/
def unwritableRecord (name : String) : Log.Record :=
  record .warn (name ++ ": write error: " ++ (Frame.Error.io .brokenPipe).message)

/-- The conversation after the writer has ended, which closes the queue and the input of the server.
-/
def endWriter (s : Conversation) : Conversation :=
  { s with writer := .ended,
           link := { s.link with input := { s.link.input with writable := false } } }

/-- Whether nobody is left to give orders. -/
def unattended (s : Conversation) : Bool :=
  match s.caller, s.reader with
  | .gone, .ended => true
  | _, _ => false

/-- The next step of the writer. -/
def stepWriter (s : Conversation) : StepResult :=
  match s.writer with
  | .ended => none
  | .receiving =>
    match s.queue with
    | .send message :: rest =>
      some ({ s with queue := rest, writer := .writing (Frame.encode message) }, [])
    | .stop :: rest => some (endWriter { s with queue := rest }, [])
    | [] => if s.unattended then some (s.endWriter, []) else none
  | .writing [] => some ({ s with writer := .receiving }, [])
  | .writing (b :: bytes) =>
    let input := s.link.input
    -- the orders that are left in the queue are lost
    if !input.readable then some (s.endWriter, [.logged .writer (unwritableRecord s.name)])
    else
      let room := input.room s.link.capacity
      if room = 0 then none
      else
        let chunk := (b :: bytes).take room
        some ({ s with writer := .writing ((b :: bytes).drop room),
                       link := { s.link with input := input.write chunk } }, [.wrote chunk])

/-! ## Steps and runs -/

/-- The next step of a party. -/
def stepParty (s : Conversation) : Party → StepResult
  | .caller => s.stepCaller
  | .reader => s.stepReader
  | .writer => s.stepWriter

/-- One step. -/
def step (s : Conversation) : Action → StepResult
  | .call c =>
    match s.caller with
    | .idle => some (s.call c)
    | _ => none
  | .abandon =>
    match s.caller with
    | .idle => some ({ s with caller := .gone, link := s.link.kill }, [])
    | _ => none
  | .party p => s.stepParty p
  | .expire => s.expire
  | .server move => (s.link.move? move).map fun link => ({ s with link }, [])

/-- Several steps, one after the other; `none` if one of them is not possible. -/
def run (s : Conversation) : List Action → StepResult
  | [] => some (s, [])
  | action :: rest =>
    match s.step action with
    | none => none
    | some (next, events) =>
      match next.run rest with
      | none => none
      | some (last, more) => some (last, events ++ more)

/-- A run of no steps changes nothing. -/
@[simp] theorem run_nil (s : Conversation) : s.run [] = some (s, []) := rfl

/-- Runs can be put one after the other. -/
theorem run_append {s t u : Conversation} {first second : List Action} {e f : List Event}
    (h₁ : s.run first = some (t, e)) (h₂ : t.run second = some (u, f)) :
    s.run (first ++ second) = some (u, e ++ f) := by
  induction first generalizing s e with
  | nil =>
    simp only [run_nil, Option.some.injEq, Prod.mk.injEq] at h₁
    obtain ⟨rfl, rfl⟩ := h₁
    simpa using h₂
  | cons action rest ih =>
    simp only [run, List.cons_append] at h₁ ⊢
    split at h₁
    · cases h₁
    · split at h₁
      · cases h₁
      · rename_i last more hr
        simp only [Option.some.injEq, Prod.mk.injEq] at h₁
        obtain ⟨rfl, rfl⟩ := h₁
        simp [ih hr]

end Conversation

end ToolingHost.Client
