import ToolingHost.Proofs.Client.Step

/-! # Requests and their answers

The caller registers a request under a number of its own, and the reader hands the answer with that
number to it. `Registry` is the invariant of the list of waiting requests: only the request that the
caller is making is in it, and nothing is left in it once the reader has closed and emptied it.
`Ledger` adds the history: what has been handed to a request is the one answer that was dispatched
while the request waited (`answersTo`), and a request takes it at most once (`obtained`). Both hold
however the parties are interleaved, whatever the server sends and whenever its output ends. -/

namespace ToolingHost.Client

open ToolingHost.Json

/-- The number of the registered request that the caller is making, if it is making one. -/
def CallerState.request? : CallerState → Option Nat
  | .sending _ id _ => some id
  | .waiting _ id => some id
  | .withdrawing _ id _ => some id
  | _ => none

/-- Whether the reader has come to the end of the server's output. -/
def ReaderState.isOver : ReaderState → Bool
  | .clearing => true
  | .ended => true
  | _ => false

/-- No request is left when the caller has done with one. -/
@[simp] theorem Purpose.request?_afterwards (purpose : Purpose) :
    purpose.afterwards.request? = none := by
  cases purpose <;> rfl

/-- Whether a message is the answer to the request with a number. -/
def isAnswerTo (id : Nat) (frame : Value) : Bool :=
  match Rpc.classify frame with
  | some (.response n _) => n == id
  | _ => false

/-- The answers to a request are the responses with its number. -/
theorem isAnswerTo_iff {id : Nat} {frame : Value} :
    isAnswerTo id frame = true ↔ Rpc.classify frame = some (.response id frame) := by
  unfold isAnswerTo
  rcases hc : Rpc.classify frame with _ | (⟨n, body⟩ | _ | _)
  case some.response =>
    obtain rfl := Rpc.body_of_classify hc
    simp
  all_goals simp

namespace Conversation

/-! ## The list of waiting requests -/

/-- The invariant of the list of waiting requests. -/
structure Registry (s : Conversation) : Prop where
  /-- Only the request that the caller is making is in the list. -/
  current : ∀ id ∈ s.waiters, s.caller.request? = some id
  /-- The number of that request has been used up. -/
  issued : ∀ id, s.caller.request? = some id → id < s.nextId
  /-- Only numbers that have been used up have answers. -/
  answered : ∀ answer ∈ s.delivered, answer.1 < s.nextId
  /-- A request in the list has no answer. -/
  unanswered : ∀ id ∈ s.waiters, s.delivered.lookup id = none
  /-- The list is closed when the reader has come to the end, and only then. -/
  closed : s.closed = s.reader.isOver
  /-- A closed list is empty, unless the reader is about to empty it. -/
  emptied : s.closed = true → s.locked = false → s.waiters = []

namespace Registry

variable {s t : Conversation} {action : Action} {events : List Event}

/-- A client whose server has just been started has no requests. -/
theorem fresh (name : String) (processId : Value) (capacity : Nat) :
    Registry (fresh name processId capacity) where
  current := by simp [Conversation.fresh]
  issued := by simp [Conversation.fresh, CallerState.request?]
  answered := by simp [Conversation.fresh]
  unanswered := by simp [Conversation.fresh]
  closed := rfl
  emptied := by simp [Conversation.fresh]

/-- The list is empty while the caller is making no request. -/
theorem waiters_eq_nil (h : Registry s) (none : s.caller.request? = none) : s.waiters = [] := by
  rw [List.eq_nil_iff_forall_not_mem]
  intro id hid
  have := h.current id hid
  rw [none] at this
  cases this

/-- The next number has no answer. -/
theorem lookup_nextId (h : Registry s) : s.delivered.lookup s.nextId = none := by
  rw [List.lookup_eq_none_iff]
  intro answer ha
  have := h.answered answer ha
  rw [bne_iff_ne]
  omega

/-- The part of a conversation that the invariant speaks of, the caller left aside. -/
def view (s : Conversation) : Nat × Bool × List Nat × List (Nat × Value) × Bool × Bool :=
  (s.nextId, s.closed, s.waiters, s.delivered, s.reader.isOver, s.locked)

/-- A step that leaves this part alone, and the request that the caller is making, keeps the
invariant. -/
theorem of_view (h : Registry s) (same : view t = view s)
    (request : t.caller.request? = s.caller.request?) : Registry t := by
  simp only [view, Prod.mk.injEq] at same
  obtain ⟨nextId, closed, waiters, delivered, isOver, locked⟩ := same
  constructor
  · rw [waiters, request]
    exact h.current
  · rw [nextId, request]
    exact h.issued
  · rw [nextId, delivered]
    exact h.answered
  · rw [waiters, delivered]
    exact h.unanswered
  · rw [closed, isOver]
    exact h.closed
  · rw [closed, locked, waiters]
    exact h.emptied

/-- A request that is over leaves the list empty, and uses up at most its number. -/
theorem settled (h : Registry s) (waiters : t.waiters = []) (request : t.caller.request? = none)
    (nextId : s.nextId ≤ t.nextId) (delivered : t.delivered = s.delivered)
    (closed : t.closed = s.closed) (reader : t.reader = s.reader) : Registry t := by
  constructor
  · simp [waiters]
  · simp [request]
  · intro answer ha
    rw [delivered] at ha
    exact Nat.lt_of_lt_of_le (h.answered answer ha) nextId
  · simp [waiters]
  · rw [closed, reader]
    exact h.closed
  · intro _ _
    exact waiters

/-- A request that has its answer is not in the list, and no other is. -/
theorem waiters_eq_nil_of_lookup (h : Registry s) {id : Nat} {body : Value}
    (request : s.caller.request? = some id) (found : s.delivered.lookup id = some body) :
    s.waiters = [] := by
  rw [List.eq_nil_iff_forall_not_mem]
  intro other hother
  have same := h.current other hother
  rw [request, Option.some.injEq] at same
  have missing := h.unanswered other hother
  rw [← same, found] at missing
  cases missing

/-- Withdrawing the request that the caller is making empties the list. -/
theorem filter_eq_nil (h : Registry s) {id : Nat} (request : s.caller.request? = some id) :
    s.waiters.filter (· != id) = [] := by
  rw [List.filter_eq_nil_iff]
  intro other hother
  have same := h.current other hother
  rw [request, Option.some.injEq] at same
  simp [same]

/-- The caller keeps the invariant. -/
theorem callerStep (h : Registry s) (own : CallerStep s t events) : Registry t := by
  cases own with
  | refused at_ =>
      have empty := h.waiters_eq_nil (by rw [at_]; rfl)
      exact h.settled empty (by simp) (Nat.le_succ _) rfl rfl rfl
  | @registered purpose params at_ unlocked opened =>
      -- the list was empty, so the new request is alone in it and replaces none
      have empty := h.waiters_eq_nil (by rw [at_]; rfl)
      constructor
      · simp [empty, CallerState.request?]
      · simp [CallerState.request?]
      · exact fun answer ha => Nat.lt_succ_of_lt (h.answered answer ha)
      · simpa [empty] using h.lookup_nextId
      · exact h.closed
      · simp [opened]
  | sent at_ | unsent at_ | orphaned at_ | stopped at_ | unstopped at_ | reaped at_ =>
      exact h.of_view rfl (by rw [at_]; rfl)
  | accepted at_ found =>
      -- the reader took the request off the list when it handed the answer over
      have empty := h.waiters_eq_nil_of_lookup (by rw [at_]; rfl) found
      exact h.settled empty rfl (Nat.le_refl _) rfl rfl rfl
  | rejected at_ found =>
      have empty := h.waiters_eq_nil_of_lookup (by rw [at_]; rfl) found
      exact h.settled empty (by simp) (Nat.le_refl _) rfl rfl rfl
  | withdrawn at_ =>
      have empty := h.filter_eq_nil (by rw [at_]; rfl)
      exact h.settled empty (by simp) (Nat.le_refl _) rfl rfl rfl
  | @notified purpose at_ | @unnotified purpose at_ =>
      exact h.of_view rfl (purpose.request?_afterwards.trans (by rw [at_]; rfl))

/-- The reader keeps the invariant while it dispatches a message. -/
theorem dispatched (h : Registry s) {frame : Value} {buffer rest : Bytes}
    (reading : s.reader = .reading buffer) (own : Dispatched s frame rest t) : Registry t := by
  have isOver := h.closed
  rw [reading] at isOver
  cases own with
  | ignored | asked | lost =>
      exact h.of_view (by simp [view, reading, ReaderState.isOver, locked]) rfl
  | @delivered id body reaction waiting =>
      -- whatever number the message has, it is that of the request the caller is making
      have hid := h.current id (List.contains_iff_mem.mp waiting)
      have empty := h.filter_eq_nil hid
      constructor
      · simp [empty]
      · exact h.issued
      · intro answer ha
        rcases List.mem_cons.mp ha with rfl | ha
        · exact h.issued id hid
        · exact h.answered answer ha
      · simp [empty]
      · simpa [ReaderState.isOver] using isOver
      · intro _ _
        exact empty

/-- The reader keeps the invariant. -/
theorem readerStep (h : Registry s) (own : ReaderStep s t events) : Registry t := by
  cases own with
  | cleared at_ =>
      constructor
      · simp
      · exact h.issued
      · exact h.answered
      · simp
      · have isOver := h.closed
        rw [at_] at isOver
        exact isOver
      · intro _ _
        rfl
  | replied at_ | unreplied at_ | fetched at_ =>
      exact h.of_view (by simp [view, at_, ReaderState.isOver, locked]) rfl
  | dispatched at_ _ own => exact h.dispatched at_ own
  | closed at_ =>
      constructor
      · exact h.current
      · exact h.issued
      · exact h.answered
      · exact h.unanswered
      · rfl
      · -- the list may still hold a request, but the reader now holds the list
        simp [locked]

/-- The writer does not touch the list. -/
theorem writerStep (h : Registry s) (own : WriterStep s t events) : Registry t := by
  cases own <;> exact h.of_view rfl rfl

/-- **Every step keeps the invariant of the list of waiting requests.** -/
theorem step (h : Registry s) (made : Step s action t events) : Registry t := by
  cases made with
  | unlocatable => exact h
  | opening at_ | closing at_ | abandoned at_ | killed at_ | expired at_ =>
      exact h.of_view rfl (by rw [at_]; rfl)
  | caller own => exact h.callerStep own
  | reader own => exact h.readerStep own
  | writer own => exact h.writerStep own
  | server => exact h.of_view rfl rfl

end Registry

/-! ## What was handed to the requests -/

/-- The answers to a request that a move dispatches while the request waits in the list. -/
def answersIn (id : Nat) (move : Move Conversation Action Event) : List Value :=
  if move.source.waiters.contains id then (dispatchedIn move.events).filter (isAnswerTo id) else []

/-- The answers to a request that were dispatched while it waited in the list, in order. -/
def answersTo (id : Nat) (moves : List (Move Conversation Action Event)) : List Value :=
  moves.flatMap (answersIn id)

/-- The answer that a move gives to the request that the caller is making: the caller takes a step
while the answer to its request is there. -/
def obtained? (move : Move Conversation Action Event) : Option (Nat × Value) :=
  match move.action, move.source.caller with
  | .party .caller, .waiting _ id => (move.source.delivered.lookup id).map fun body => (id, body)
  | _, _ => none

/-- The answers that requests have got, in order, each with the number of its request. -/
def obtained (moves : List (Move Conversation Action Event)) : List (Nat × Value) :=
  moves.filterMap obtained?

/-- Only answers to a request are counted as such. -/
theorem isAnswerTo_of_mem_answersIn {id : Nat} {move : Move Conversation Action Event}
    {frame : Value} (h : frame ∈ answersIn id move) : isAnswerTo id frame = true := by
  unfold answersIn at h
  split at h
  · exact (List.mem_filter.mp h).2
  · cases h

/-- A request gets an answer in a step of the caller that waits for it. -/
theorem obtained?_eq_some_iff {move : Move Conversation Action Event} {id : Nat} {body : Value} :
    obtained? move = some (id, body) ↔
      move.action = .party .caller ∧ (∃ purpose, move.source.caller = .waiting purpose id) ∧
        move.source.delivered.lookup id = some body := by
  unfold obtained?
  split
  · rename_i purpose n ha hc
    rw [ha, hc, Option.map_eq_some_iff]
    constructor
    · rintro ⟨_, found, he⟩
      cases he
      exact ⟨rfl, ⟨purpose, rfl⟩, found⟩
    · rintro ⟨-, ⟨_, hw⟩, found⟩
      cases hw
      exact ⟨body, found, rfl⟩
  · rename_i other
    constructor
    · intro h
      cases h
    · rintro ⟨ha, ⟨purpose, hc⟩, -⟩
      exact absurd hc (other purpose id ha)

end Conversation

section Answers

variable {s t : Conversation} {action : Action} {events : List Event}

/-- Dispatching a message hands it over exactly if it is the answer to a request in the list. -/
theorem Dispatched.lookup (h : s.Registry) {frame : Value} {rest : Bytes}
    (own : Dispatched s frame rest t) (id : Nat) :
    (t.delivered.lookup id).toList =
      (s.delivered.lookup id).toList ++
        if s.waiters.contains id then [frame].filter (isAnswerTo id) else [] := by
  have shape := react_fst s.name frame
  cases own with
  | ignored reaction | asked reaction =>
      -- neither is a response, so no number fits
      have other : isAnswerTo id frame = false := by
        unfold isAnswerTo
        rw [reaction] at shape
        split at shape <;> simp_all
      simp [other]
  | @lost n body reaction unknown =>
      rw [react_eq_deliver_iff] at reaction
      by_cases hn : n = id
      · subst hn
        -- the request is not in the list: the answer is dropped
        rw [unknown]
        simp
      · simp [isAnswerTo, reaction, hn]
  | @delivered n body reaction waiting =>
      rw [react_eq_deliver_iff] at reaction
      obtain rfl := Rpc.body_of_classify reaction
      by_cases hn : n = id
      · subst hn
        -- a request in the list has no answer yet, so this one is its first
        rw [waiting, h.unanswered n (List.contains_iff_mem.mp waiting)]
        simp [isAnswerTo, reaction]
      · have hb : (id == n) = false := by simpa using Ne.symm hn
        simp [isAnswerTo, reaction, hn, List.lookup_cons, hb]

/-- **One step hands over what it dispatches.** What has been handed to a request grows by the
answers that are dispatched while it waits in the list. -/
theorem Step.lookup (h : s.Registry) (made : Step s action t events) (id : Nat) :
    (t.delivered.lookup id).toList =
      (s.delivered.lookup id).toList ++ Conversation.answersIn id ⟨s, action, t, events⟩ := by
  unfold Conversation.answersIn
  cases made with
  | unlocatable | opening | closing | abandoned | expired | killed | server =>
      simp [Event.dispatched?]
  | caller own => simp [own.dispatchedIn_eq, own.delivered_eq]
  | writer own => simp [own.dispatchedIn_eq, own.delivered_eq]
  | reader own =>
      cases own with
      | cleared | replied | unreplied | closed | fetched => simp [Event.dispatched?]
      | dispatched _ _ own =>
          rw [dispatchedIn_dispatchEvents]
          exact own.lookup h id

/-- An answer that has been handed over stays. -/
theorem Step.lookup_of_some (h : s.Registry) (made : Step s action t events) {id : Nat}
    {body : Value} (found : s.delivered.lookup id = some body) :
    t.delivered.lookup id = some body := by
  have grown := made.lookup h id
  rw [found] at grown
  cases ht : t.delivered.lookup id with
  | none => simp [ht] at grown
  | some other =>
      rw [ht] at grown
      simp only [Option.toList_some, List.cons_append, List.nil_append, List.cons.injEq] at grown
      rw [grown.1]

/-- The caller starts no request but the one with the next number. -/
theorem Step.request? (made : Step s action t events) {id : Nat}
    (request : t.caller.request? = some id) : s.caller.request? = some id ∨ id = s.nextId := by
  cases made with
  | unlocatable | server => exact .inl request
  | opening | closing | abandoned | killed => cases request
  | expired at_ =>
      rw [at_]
      exact .inl request
  | caller own =>
      cases own with
      | refused | rejected | withdrawn | notified | unnotified => simp at request
      | accepted | stopped | unstopped | reaped => cases request
      | registered =>
          cases request
          exact .inr rfl
      | sent at_ | unsent at_ | orphaned at_ =>
          rw [at_]
          exact .inl request
  | reader own => exact .inl (own.caller_eq ▸ request)
  | writer own => exact .inl (own.caller_eq ▸ request)

/-- A request is over once it has got its answer. -/
theorem CallerStep.request?_of_answer (own : CallerStep s t events) {purpose : Purpose} {id : Nat}
    {body : Value} (waiting : s.caller = .waiting purpose id)
    (found : s.delivered.lookup id = some body) : t.caller.request? = none := by
  cases own with
  | accepted => rfl
  | rejected => exact Purpose.request?_afterwards _
  | orphaned at_ missing =>
      rw [waiting] at at_
      cases at_
      rw [found] at missing
      cases missing
  | _ => simp_all

end Answers

namespace Conversation

/-- The invariant of the answers, over the moves that have led to a state. -/
structure Ledger (moves : List (Move Conversation Action Event)) (s : Conversation) : Prop where
  /-- The list of waiting requests is in order. -/
  registry : Registry s
  /-- What has been handed to a request is the one answer dispatched while it waited in the list. -/
  answers : ∀ id, (s.delivered.lookup id).toList = answersTo id moves
  /-- What a request has got was handed to it, and the caller is not making it any more. -/
  taken : ∀ id body, (id, body) ∈ obtained moves →
    s.delivered.lookup id = some body ∧ s.caller.request? ≠ some id
  /-- No request has got two answers. -/
  once : ((obtained moves).map Prod.fst).Nodup

namespace Ledger

variable {moves : List (Move Conversation Action Event)} {s t : Conversation} {action : Action}
  {events : List Event}

/-- Nothing has been handed over at the start. -/
theorem fresh (name : String) (processId : Value) (capacity : Nat) :
    Ledger [] (fresh name processId capacity) where
  registry := .fresh name processId capacity
  answers := by simp [answersTo, Conversation.fresh]
  taken := by simp [obtained]
  once := by simp [obtained]

/-- A request that has an answer is an old one. -/
theorem lt_nextId (h : Registry s) {id : Nat} {body : Value}
    (found : s.delivered.lookup id = some body) : id < s.nextId := by
  obtain ⟨newer, older, hd, -⟩ := List.lookup_eq_some_iff.mp found
  exact h.answered (id, body) (by simp [hd])

/-- An answer that was got stays so in every step. -/
theorem taken_step (h : Ledger moves s) (made : Step s action t events) {id : Nat} {body : Value}
    (old : (id, body) ∈ obtained moves) :
    t.delivered.lookup id = some body ∧ t.caller.request? ≠ some id := by
  obtain ⟨found, other⟩ := h.taken id body old
  refine ⟨made.lookup_of_some h.registry found, fun request => ?_⟩
  rcases made.request? request with same | rfl
  · exact other same
  · exact absurd (lt_nextId h.registry found) (Nat.lt_irrefl _)

/-- **Every step keeps the invariant of the answers.** -/
theorem step (h : Ledger moves s) (made : Step s action t events) :
    Ledger (moves ++ [⟨s, action, t, events⟩]) t := by
  have more : obtained (moves ++ [⟨s, action, t, events⟩]) =
      obtained moves ++ (obtained? ⟨s, action, t, events⟩).toList := by
    simp only [obtained, List.filterMap_append]
    cases hm : obtained? ⟨s, action, t, events⟩ <;> simp [hm]
  refine ⟨h.registry.step made, fun id => ?_, fun id body hid => ?_, ?_⟩
  · rw [made.lookup h.registry id, h.answers id]
    simp [answersTo]
  · rw [more] at hid
    rcases List.mem_append.mp hid with old | new
    · exact h.taken_step made old
    -- the answer is got in this step, after which the caller makes another request or none
    · rw [Option.mem_toList, obtained?_eq_some_iff] at new
      obtain ⟨rfl, ⟨purpose, waiting⟩, found⟩ := new
      cases made with
      | caller own =>
          refine ⟨own.delivered_eq ▸ found, ?_⟩
          rw [own.request?_of_answer waiting found]
          simp
  · rw [more, List.map_append, List.nodup_append]
    refine ⟨h.once, by cases obtained? ⟨s, action, t, events⟩ <;> simp, ?_⟩
    intro id hid other hother
    -- the request that gets its answer now is the one that the caller is making
    obtain ⟨⟨id, body⟩, old, rfl⟩ := List.mem_map.mp hid
    obtain ⟨⟨other, body'⟩, new, rfl⟩ := List.mem_map.mp hother
    rw [Option.mem_toList, obtained?_eq_some_iff] at new
    obtain ⟨-, ⟨purpose, waiting⟩, -⟩ := new
    have left := (h.taken id body old).2
    simp only at waiting
    rw [waiting] at left
    rintro rfl
    exact left rfl

/-- The invariant of the answers holds after every history of a client. -/
theorem of_history {name : String} {processId : Value} {capacity : Nat}
    (h : History (Conversation.fresh name processId capacity) moves s) : Ledger moves s := by
  induction h with
  | nil => exact .fresh name processId capacity
  | concat _ made ih => exact ih.step (step_sound made)

end Ledger

/-- A registered request leaves the registered ones where they are, and takes a number that none of
them has. -/
theorem Registry.waiters_registered {s t : Conversation} {action : Action} {events : List Event}
    (h : Registry s) (made : Step s action t events) {purpose : Purpose} {params : Option Value}
    {id : Nat} {message : Value} (before : s.caller = .registering purpose params)
    (after : t.caller = .sending purpose id message) :
    id ∉ s.waiters ∧ t.waiters = id :: s.waiters := by
  have empty := h.waiters_eq_nil (by rw [before]; rfl)
  have stuck (same : t.caller = s.caller) : False := by
    rw [after, before] at same
    cases same
  cases made with
  | unlocatable => exact (stuck rfl).elim
  | opening | closing | abandoned | killed | expired => cases after
  | server => exact (stuck rfl).elim
  | reader own => exact (stuck own.caller_eq).elim
  | writer own => exact (stuck own.caller_eq).elim
  | caller own =>
      cases own with
      | registered =>
          cases after
          simp [empty]
      | @refused purpose' =>
          -- a request that the closed list refuses is never sent
          have none := purpose'.request?_afterwards
          rw [show purpose'.afterwards = .sending purpose id message from after] at none
          cases none
      | _ => simp_all

/-- A request that waits and has its answer gets it in the next step of the caller, and its time
limit cannot expire any more. -/
theorem step_of_answer {s : Conversation} {purpose : Purpose} {id : Nat} {body : Value}
    (waiting : s.caller = .waiting purpose id) (found : s.delivered.lookup id = some body) :
    s.step .expire = none ∧
      ∃ t events, s.step (.party .caller) = some (t, events) ∧
        obtained? ⟨s, .party .caller, t, events⟩ = some (id, body) := by
  constructor
  · simp [step, expire, waiting, found]
  · refine ⟨(s.answered body purpose).1, (s.answered body purpose).2, ?_, ?_⟩
    · simp [step, stepParty, stepCaller, waiting, found]
    · exact obtained?_eq_some_iff.mpr ⟨rfl, ⟨purpose, waiting⟩, found⟩

/-- **Requests are answered at most once, by the first answer that comes while they wait.** After
every history of a client: no request has got two answers; what a request has got is a response with
its number, and the first one (and the only one) that was dispatched while the request waited in the
list; a request that waits and was sent such an answer gets it; a request that is registered takes a
number that is not in the list, and nothing leaves the list for it; no request is in the list but
the one that the caller is making, so none is left there by a call that has returned; and the list
is empty once it is closed, unless the reader is about to empty it. -/
theorem requests_answered_once {name : String} {processId : Value} {capacity : Nat}
    {moves : List (Move Conversation Action Event)} {s : Conversation}
    (h : History (fresh name processId capacity) moves s) :
    ((obtained moves).map Prod.fst).Nodup ∧
      (∀ id body, (id, body) ∈ obtained moves →
        Rpc.classify body = some (.response id body) ∧ answersTo id moves = [body]) ∧
      (∀ purpose id body, s.caller = .waiting purpose id → body ∈ answersTo id moves →
        s.step .expire = none ∧
          ∃ t events, s.step (.party .caller) = some (t, events) ∧
            obtained? ⟨s, .party .caller, t, events⟩ = some (id, body)) ∧
      (∀ move ∈ moves, ∀ purpose params id message,
        move.source.caller = .registering purpose params →
          move.target.caller = .sending purpose id message →
            id ∉ move.source.waiters ∧ move.target.waiters = id :: move.source.waiters) ∧
      (∀ id, s.caller.request? ≠ some id → id ∉ s.waiters) ∧
      (s.locked = false → s.closed = true → s.waiters = []) := by
  have ledger := Ledger.of_history h
  refine ⟨ledger.once, fun id body got => ?_, fun purpose id body waiting sent => ?_, ?_,
    fun id other hid => ?_, fun unlocked closed => ?_⟩
  -- what a call has obtained was delivered, and one answer was dispatched for it
  · obtain ⟨found, -⟩ := ledger.taken id body got
    have all := ledger.answers id
    rw [found] at all
    have fits : body ∈ answersTo id moves := by simp [← all]
    obtain ⟨move, -, hb⟩ := List.mem_flatMap.mp fits
    exact ⟨isAnswerTo_iff.mp (isAnswerTo_of_mem_answersIn hb), all.symm⟩
  · rw [← ledger.answers id, Option.mem_toList] at sent
    exact step_of_answer waiting sent
  · intro move hm purpose params id message before after
    obtain ⟨⟨earlier, history⟩, made⟩ := h.of_mem hm
    exact (Ledger.of_history history).registry.waiters_registered (step_sound made) before after
  · exact other (ledger.registry.current id hid)
  · exact ledger.registry.emptied closed unlocked

/-- The answer to the first request of a client, with no result. -/
def firstAnswer : Value := .object [("id", .int 1), ("result", .null)]

/-- A client is closed, its server answers twice and is then silent, and the client takes the first
answer and both steps of the second. -/
def answeredTwice : List Action :=
  [.call .close, .party .caller, .party .caller,
    .server (.write (Frame.encode firstAnswer ++ Frame.encode firstAnswer)),
    .party .reader, .party .reader, .party .caller, .party .reader]

/-- The request that is answered twice gets one answer. -/
theorem requests_answered_once_twice :
    (1, firstAnswer) ∈ obtained (movesOf step (fresh "server" .null 4096) answeredTwice) ∧
      Rpc.classify firstAnswer = some (.response 1 firstAnswer) ∧
      answersTo 1 (movesOf step (fresh "server" .null 4096) answeredTwice) = [firstAnswer] := by
  have got :
      (1, firstAnswer) ∈ obtained (movesOf step (fresh "server" .null 4096) answeredTwice) := by
    have all : obtained (movesOf step (fresh "server" .null 4096) answeredTwice) =
        [(1, firstAnswer)] := rfl
    simp [all]
  exact ⟨got, (requests_answered_once (.of_actions step _ _)).2.1 1 firstAnswer got⟩

end Conversation

end ToolingHost.Client
