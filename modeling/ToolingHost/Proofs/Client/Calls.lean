import ToolingHost.Proofs.Client.Requests

/-! # What a call sends

A call sends a request and, after an answer that is no refusal, a notification. `Within` says how
far the caller has come with a request and what it has sent for it, and one step takes it further or
ends it (`Within.step`). The notification is sent only after the answer was dispatched: a caller
that is about to send it was handed an answer without error (`Ledger.accepted`). -/

namespace ToolingHost.Client

open ToolingHost.Json

/-- The message to send, if the order is that. -/
def Order.message? : Order → Option Value
  | .send message => some message
  | .stop => none

/-- The messages that the caller puts into the queue, in order. -/
def messagesIn (events : List Event) : List Value :=
  (ordersOf .caller events).filterMap Order.message?

/-- No message is sent when nothing happens. -/
@[simp] theorem messagesIn_nil : messagesIn [] = [] := rfl

/-- Messages are sent one after the other. -/
@[simp] theorem messagesIn_append (first second : List Event) :
    messagesIn (first ++ second) = messagesIn first ++ messagesIn second := by
  simp [messagesIn]

/-- The messages of the caller are those that it puts into the queue. -/
theorem mem_messagesIn {message : Value} {events : List Event} :
    message ∈ messagesIn events ↔ Event.queued .caller (.send message) ∈ events := by
  simp only [messagesIn, ordersOf, List.mem_filterMap]
  constructor
  · rintro ⟨order, ⟨event, hevent, ho⟩, hm⟩
    unfold Event.order? at ho
    split at ho
    · rename_i by_ order'
      split at ho
      · rename_i own
        cases ho
        cases order with
        | send => exact own ▸ Option.some.inj hm ▸ hevent
        | stop => cases hm
      · cases ho
    · cases ho
  · intro h
    exact ⟨.send message, ⟨_, h, rfl⟩, rfl⟩

/-- No call returns when nothing happens. -/
@[simp] theorem returned?_nil : returned? [] = none := rfl

/-- The first return counts. -/
theorem returned?_append (first second : List Event) :
    returned? (first ++ second) = (returned? first).or (returned? second) :=
  List.findSome?_append

/-- What a party writes into the log is no return. -/
@[simp] theorem returned?_logged (party : Party) (records : List Log.Record) :
    returned? (records.map (Event.logged party)) = none := by
  unfold returned?
  rw [List.findSome?_eq_none_iff]
  intro event h
  obtain ⟨record, -, rfl⟩ := List.mem_map.mp h
  rfl

namespace Purpose

/-- A request that fails sends no message. -/
@[simp] theorem messagesIn_failed (purpose : Purpose) (failure : Failure) :
    messagesIn (purpose.failed failure) = [] := by
  cases purpose <;> rfl

/-- A notification that cannot be sent makes the call fail like a request that cannot be sent. -/
theorem announced_false (purpose : Purpose) :
    purpose.announced false = purpose.failed .queueClosed := by
  cases purpose <;> rfl

end Purpose

section Silence

variable {s t : Conversation} {events : List Event}

/-- The reader sends nothing for the caller and returns nothing to it. -/
theorem ReaderStep.silent (own : ReaderStep s t events) :
    messagesIn events = [] ∧ returned? events = none ∧ t.nextId = s.nextId := by
  cases own with
  | dispatched _ _ own =>
      refine ⟨by simp [messagesIn], ?_, by cases own <;> rfl⟩
      exact returned?_logged .reader (react s.name _).2
  | _ => exact ⟨rfl, rfl, rfl⟩

/-- The writer sends nothing for the caller and returns nothing to it. -/
theorem WriterStep.silent (own : WriterStep s t events) :
    messagesIn events = [] ∧ returned? events = none ∧ t.nextId = s.nextId := by
  cases own <;> exact ⟨rfl, rfl, rfl⟩

end Silence

/-! ## One request -/

/-- `Within purpose id params nextId caller sent`: the caller is making the request for a purpose
with a number and arguments; the number of the next request, what the caller does, and what it has
sent for this one. -/
inductive Within (purpose : Purpose) (id : Nat) (params : Option Value) (nextId : Nat) :
    CallerState → List Value → Prop where
  /-- It is about to register the request. -/
  | registering (next : nextId = id) :
      Within purpose id params nextId (.registering purpose params) []
  /-- It waits for room for the request. -/
  | sending (next : nextId = id + 1) :
      Within purpose id params nextId (.sending purpose id (purpose.request id params)) []
  /-- It waits for the answer. -/
  | waiting (next : nextId = id + 1) :
      Within purpose id params nextId (.waiting purpose id) [purpose.request id params]
  /-- It is about to withdraw the request, whether or not it was sent. -/
  | withdrawing {failure : Failure} {sent : List Value} (next : nextId = id + 1)
      (few : sent <+: [purpose.request id params]) :
      Within purpose id params nextId (.withdrawing purpose id failure) sent
  /-- It waits for room for the notification. -/
  | notifying (next : nextId = id + 1) :
      Within purpose id params nextId (.notifying purpose) [purpose.request id params]

/-- How a request ends: with the notification, or with at most the request sent. -/
inductive Ended (purpose : Purpose) (request : Value) : List Value → Option Outcome → Prop where
  /-- The notification was sent. -/
  | announced : Ended purpose request [request, purpose.notification.toValue]
      (returned? (purpose.announced true))
  /-- The request failed. -/
  | failed {failure : Failure} {sent : List Value} (few : sent <+: [request]) :
      Ended purpose request sent (returned? (purpose.failed failure))

namespace Within

variable {purpose : Purpose} {id : Nat} {params : Option Value} {sent : List Value}
  {s t : Conversation} {action : Action} {events : List Event}

/-- At most the request has been sent. -/
theorem isPrefix (h : Within purpose id params s.nextId s.caller sent) :
    sent <+: [purpose.request id params] := by
  generalize s.caller = caller at h
  cases h with
  | registering | sending => exact List.nil_prefix
  | waiting | notifying => exact List.prefix_refl _
  | withdrawing _ few => exact few

/-- **One step takes a request further or ends it.** -/
theorem step (h : Within purpose id params s.nextId s.caller sent) (made : Step s action t events) :
    (Within purpose id params t.nextId t.caller (sent ++ messagesIn events) ∧
        returned? events = none) ∨
      (t.caller = purpose.afterwards ∧ t.nextId = id + 1 ∧
        Ended purpose (purpose.request id params) (sent ++ messagesIn events)
          (returned? events)) := by
  cases made with
  -- a call is made or given up only while no request is being made
  | unlocatable at_ | opening at_ | closing at_ | abandoned at_ | killed at_ =>
      rw [at_] at h
      cases h
  | expired at_ =>
      rw [at_] at h
      cases h with
      | waiting next => exact .inl ⟨.withdrawing next (by simp), rfl⟩
  | server => exact .inl ⟨by simpa using h, rfl⟩
  | reader own =>
      obtain ⟨none, quiet, same⟩ := own.silent
      rw [none, quiet, own.caller_eq, same]
      exact .inl ⟨by simpa using h, rfl⟩
  | writer own =>
      obtain ⟨none, quiet, same⟩ := own.silent
      rw [none, quiet, own.caller_eq, same]
      exact .inl ⟨by simpa using h, rfl⟩
  | caller own =>
      cases own with
      | stopped at_ | unstopped at_ | reaped at_ =>
          rw [at_] at h
          cases h
      | refused at_ =>
          rw [at_] at h
          cases h with
          | registering next => exact .inr ⟨rfl, congrArg (· + 1) next, .failed (by simp)⟩
      | registered at_ =>
          rw [at_] at h
          cases h with
          | registering next =>
              subst next
              exact .inl ⟨.sending rfl, rfl⟩
      | sent at_ =>
          rw [at_] at h
          cases h with
          | sending next => exact .inl ⟨.waiting next, rfl⟩
      | unsent at_ =>
          rw [at_] at h
          cases h with
          | sending next => exact .inl ⟨.withdrawing next (by simp), rfl⟩
      | accepted at_ =>
          rw [at_] at h
          cases h with
          | waiting next => exact .inl ⟨.notifying next, rfl⟩
      | orphaned at_ =>
          rw [at_] at h
          cases h with
          | waiting next => exact .inl ⟨.withdrawing next (by simp), rfl⟩
      | rejected at_ =>
          rw [at_] at h
          cases h with
          | waiting next => exact .inr ⟨rfl, next, .failed (by simp)⟩
      | withdrawn at_ =>
          rw [at_] at h
          cases h with
          | withdrawing next few => exact .inr ⟨rfl, next, .failed (by simpa using few)⟩
      | notified at_ =>
          rw [at_] at h
          cases h with
          | notifying next => exact .inr ⟨rfl, next, by cases purpose <;> exact .announced⟩
      | unnotified at_ =>
          rw [at_] at h
          cases h with
          | notifying next =>
              rw [purpose.announced_false]
              exact .inr ⟨rfl, next, .failed (by simp)⟩

/-- A request that waits for its answer has the number that it was given. -/
theorem of_waiting {nextId : Nat} {purpose' : Purpose} {id' : Nat}
    (h : Within purpose id params nextId (.waiting purpose' id') sent) :
    purpose' = purpose ∧ id' = id := by
  cases h
  exact ⟨rfl, rfl⟩

/-- What is sent for a request first is the request. -/
theorem of_sending {nextId : Nat} {purpose' : Purpose} {id' : Nat} {message : Value}
    (h : Within purpose id params nextId (.sending purpose' id' message) sent) :
    message = purpose.request id params := by
  cases h
  rfl

end Within

/-! ## Without a request -/

/-- Whether the caller has done with all requests: it ends the server, or has ended. -/
def CallerState.isOver : CallerState → Bool
  | .stopping => true
  | .reaping => true
  | .gone => true
  | _ => false

section Rest

variable {s t : Conversation} {action : Action} {events : List Event}

/-- A caller that is between calls stays so, and sends and returns nothing, until it is called or
given up. -/
theorem Step.idle (made : Step s action t events) (idle : s.caller = .idle)
    (uncalled : ∀ call, action ≠ .call call) (kept : action ≠ .abandon) :
    t.caller = .idle ∧ t.nextId = s.nextId ∧ messagesIn events = [] ∧
      returned? events = none := by
  cases made with
  | unlocatable | opening | closing => exact absurd rfl (uncalled _)
  | abandoned => exact absurd rfl kept
  | expired at_ | killed at_ =>
      rw [at_] at idle
      cases idle
  | server => exact ⟨idle, rfl, rfl, rfl⟩
  | reader own =>
      obtain ⟨none, quiet, same⟩ := own.silent
      exact ⟨own.caller_eq ▸ idle, same, none, quiet⟩
  | writer own =>
      obtain ⟨none, quiet, same⟩ := own.silent
      exact ⟨own.caller_eq ▸ idle, same, none, quiet⟩
  | caller own => cases own <;> simp_all

/-- A caller that has done with all requests sends nothing any more. -/
theorem Step.isOver (made : Step s action t events) (finished : s.caller.isOver = true) :
    t.caller.isOver = true ∧ messagesIn events = [] := by
  cases made with
  | unlocatable at_ | opening at_ | closing at_ | abandoned at_ | expired at_ =>
      rw [at_] at finished
      cases finished
  | killed => exact ⟨rfl, rfl⟩
  | server => exact ⟨finished, rfl⟩
  | reader own => exact ⟨own.caller_eq ▸ finished, own.silent.1⟩
  | writer own => exact ⟨own.caller_eq ▸ finished, own.silent.1⟩
  | caller own =>
      cases own with
      | stopped | unstopped | reaped => exact ⟨rfl, rfl⟩
      | refused at_ | registered at_ | sent at_ | unsent at_ | accepted at_ | rejected at_
        | orphaned at_ | withdrawn at_ | notified at_ | unnotified at_ =>
          rw [at_] at finished
          cases finished

end Rest

/-! ## The answer before the notification -/

namespace Purpose

/-- The number of the request for a purpose, where a conversation is opened and closed once. -/
def number : Purpose → Nat
  | .opening => 1
  | .closing => 2

/-- A request is no notification: it has a number. -/
theorem request_ne_notification (purpose other : Purpose) (id : Nat) (params : Option Value) :
    purpose.request id params ≠ other.notification.toValue := by
  intro same
  -- the request has a member that the notification lacks
  have numbered : (purpose.request id params).get? "id" = some (.int id) := by
    cases purpose <;> cases params <;> rfl
  have unnumbered : other.notification.toValue.get? "id" = none := by
    cases other <;> rfl
  rw [same, unnumbered] at numbered
  cases numbered

/-- Different calls send different notifications. -/
theorem notification_injective {purpose other : Purpose}
    (same : purpose.notification.toValue = other.notification.toValue) : purpose = other := by
  have method (p : Purpose) :
      p.notification.toValue.get? "method" = some (.string p.notification.method) := by
    cases p <;> rfl
  have equal := method purpose
  rw [same, method other, Option.some.injEq, Value.string.injEq] at equal
  cases purpose <;> cases other
  case opening.opening | closing.closing => rfl
  all_goals exact absurd equal (by decide)

end Purpose

/-- One of some messages answers the request with a number, without an error. -/
def Accepted (id : Nat) (frames : List Value) : Prop :=
  ∃ frame ∈ frames, Rpc.classify frame = some (.response id frame) ∧ frame.get? "error" = none

/-- An answer stays one when more messages come. -/
theorem Accepted.append {id : Nat} {first : List Value} (h : Accepted id first)
    (second : List Value) : Accepted id (first ++ second) := by
  obtain ⟨frame, hf, answer⟩ := h
  exact ⟨frame, List.mem_append_left _ hf, answer⟩

section Gates

variable {s t : Conversation} {action : Action} {events : List Event}

/-- A message of the caller is the request that it sends, or the notification that it sends. -/
theorem Step.message (made : Step s action t events) {message : Value}
    (sent : message ∈ messagesIn events) :
    (∃ purpose id, s.caller = .sending purpose id message) ∨
      ∃ purpose, s.caller = .notifying purpose ∧ message = purpose.notification.toValue := by
  have nothing {events : List Event} (none : messagesIn events = []) :
      message ∉ messagesIn events := by
    rw [none]
    exact List.not_mem_nil
  cases made with
  | unlocatable | opening | closing | abandoned | expired | killed | server =>
      exact absurd sent (nothing rfl)
  | reader own => exact absurd sent (nothing own.silent.1)
  | writer own => exact absurd sent (nothing own.silent.1)
  | caller own =>
      cases own with
      -- only the steps that find room in the queue send a message
      | @sent purpose id message' at_ =>
          obtain rfl := List.mem_singleton.mp sent
          exact .inl ⟨purpose, id, at_⟩
      | @notified purpose at_ =>
          have all : messagesIn (.queued .caller (.send purpose.notification.toValue) ::
              purpose.announced true) = [purpose.notification.toValue] := by
            cases purpose <;> rfl
          rw [all] at sent
          exact .inr ⟨purpose, at_, List.mem_singleton.mp sent⟩
      | refused | rejected | withdrawn => exact absurd sent (nothing (Purpose.messagesIn_failed ..))
      | unnotified =>
          rw [Purpose.announced_false] at sent
          exact absurd sent (nothing (Purpose.messagesIn_failed ..))
      | registered | unsent | accepted | orphaned | stopped | unstopped | reaped =>
          exact absurd sent (nothing rfl)

/-- The caller comes to send a notification when it is handed an answer without error. -/
theorem Step.notifying (made : Step s action t events) {purpose : Purpose}
    (after : t.caller = .notifying purpose) :
    s.caller = .notifying purpose ∨
      ∃ id body, s.caller = .waiting purpose id ∧ s.delivered.lookup id = some body ∧
        body.get? "error" = none := by
  cases made with
  | unlocatable | server => exact .inl after
  | opening | closing | abandoned | expired | killed => cases after
  | reader own => exact .inl (own.caller_eq ▸ after)
  | writer own => exact .inl (own.caller_eq ▸ after)
  | caller own =>
      cases own with
      | accepted at_ found fine =>
          cases after
          exact .inr ⟨_, _, at_, found, Option.map_eq_none_iff.mp fine⟩
      | registered | sent | unsent | orphaned | stopped | unstopped | reaped => cases after
      | @refused purpose' | @rejected purpose' | @withdrawn purpose' | @notified purpose'
        | @unnotified purpose' => cases purpose' <;> cases after

end Gates

namespace Conversation

/-- What was handed to a request is a response with its number that was dispatched. -/
theorem Ledger.dispatched {moves : List (Move Conversation Action Event)} {s : Conversation}
    (h : Ledger moves s) {id : Nat} {body : Value} (found : s.delivered.lookup id = some body) :
    body ∈ dispatchedIn (eventsOf moves) ∧ Rpc.classify body = some (.response id body) := by
  have all := h.answers id
  rw [found] at all
  -- the answers to the request are among the messages that the moves dispatch
  have fits : body ∈ answersTo id moves := by simp [← all]
  obtain ⟨move, hm, hb⟩ := List.mem_flatMap.mp fits
  have answer := isAnswerTo_of_mem_answersIn hb
  refine ⟨?_, isAnswerTo_iff.mp answer⟩
  unfold answersIn at hb
  split at hb
  · obtain ⟨event, hevent, hd⟩ := List.mem_filterMap.mp (List.mem_filter.mp hb).1
    exact List.mem_filterMap.mpr ⟨event, List.mem_flatMap.mpr ⟨move, hm, hevent⟩, hd⟩
  · cases hb

end Conversation

end ToolingHost.Client
