import ToolingHost.Proofs.Client.Step

/-! # Jams

While the caller waits for an answer or for the end of the server, a time limit runs; while it waits
for room in the queue, none does. `Jammed` describes the states in which that matters: the queue is
full, the writer waits for room in a pipe that the server does not read, and the reader has nothing
to do or waits for room too. These are the only states of a call in which the client can do nothing
without its server, and they last until the server reads its input, closes it, or ends
(`stuck_iff_jammed`). Every server can bring them about with requests whose replies it does not read
(`exists_jam`). -/

namespace ToolingHost.Client

open ToolingHost.Json

/-- Whether the caller is making a call. -/
def CallerState.isBusy : CallerState → Bool
  | .idle => false
  | .gone => false
  | _ => true

/-- Whether the caller waits for room in the queue. -/
def CallerState.awaitsRoom : CallerState → Bool
  | .sending .. => true
  | .notifying _ => true
  | .stopping => true
  | _ => false

/-- The steps of the client that need no move of the server: those of its parties, and the expiry of
a time limit. -/
def ownActions : List Action := [.party .caller, .party .reader, .party .writer, .expire]

/-- Whether the server frees a writer that waits for room: it reads its input, closes it, or ends.
-/
def ServerMove.frees : ServerMove → Bool
  | .take _ => true
  | .closeInput => true
  | .exit => true
  | _ => false

/-- Whether a step frees a writer that waits for room. -/
def Action.frees : Action → Bool
  | .server move => move.frees
  | _ => false

/-- The reader has nothing to do, or waits for room in the queue. -/
inductive ReaderWaits (s : Conversation) : Prop where
  /-- It has ended. -/
  | ended (at_ : s.reader = .ended)
  /-- It has a reply for the queue. -/
  | replying {message : Value} {buffer : Bytes} (at_ : s.reader = .replying message buffer)
  /-- It has no complete message, and the server has written nothing more. -/
  | reading {buffer : Bytes} (at_ : s.reader = .reading buffer)
      (incomplete : Frame.read? s.link.output.ended buffer = none)
      (empty : s.link.output.content.isEmpty = true)

/-- The writer waits for room in the pipe. -/
structure Clogged (s : Conversation) : Prop where
  /-- The writer has more of a message to write. -/
  writer : ∃ byte bytes, s.writer = .writing (byte :: bytes)
  /-- The server still holds its input. -/
  held : s.link.input.readable = true
  /-- Its pipe is full. -/
  pipe : s.link.input.room s.link.capacity = 0

/-- The caller waits for room in the queue, and the writer for room in the pipe. -/
structure Blocked (s : Conversation) : Prop where
  /-- The caller waits for room in the queue. -/
  caller : s.caller.awaitsRoom = true
  /-- The queue has none. -/
  full : s.hasRoom = false
  /-- The writer waits. -/
  clogged : Clogged s

/-- The client can do nothing without its server. -/
structure Jammed (s : Conversation) : Prop where
  /-- The caller and the writer wait for room. -/
  blocked : Blocked s
  /-- The reader waits. -/
  reader : ReaderWaits s

namespace Conversation

variable {s t : Conversation} {events : List Event}

/-- A queue whose writer has not ended is open. -/
theorem queueOpen_of_writing {rest : Bytes} (at_ : s.writer = .writing rest) :
    s.queueOpen = true := by
  rw [queueOpen, at_]

/-- An order of the caller waits exactly while the queue is open and full. -/
theorem submit_eq_none_iff {order : Order}
    {accepted refused : Conversation → Conversation × List Event} :
    s.submit order accepted refused = none ↔ s.queueOpen = true ∧ s.hasRoom = false := by
  unfold submit
  cases s.queueOpen <;> cases s.hasRoom <;> simp

/-- The writer waits exactly if it has ended, has no order and may get one, or has no room in the
pipe for the rest of a message. -/
theorem stepWriter_eq_none_iff :
    s.stepWriter = none ↔ s.writer = .ended ∨
      (s.writer = .receiving ∧ s.queue = [] ∧ s.unattended = false) ∨
      ∃ byte bytes, s.writer = .writing (byte :: bytes) ∧ s.link.input.readable = true ∧
        s.link.input.room s.link.capacity = 0 := by
  unfold stepWriter
  rcases hw : s.writer with _ | (_ | ⟨byte, bytes⟩) | _
  · rcases hq : s.queue with _ | ⟨_ | _, rest⟩ <;> simp
  · simp
  · by_cases held : s.link.input.readable = true
    · by_cases full : s.link.input.room s.link.capacity = 0 <;> simp [held, full]
    · simp [held]
  · simp

/-- The reader waits exactly if it has ended, has a reply for a full queue, or has no complete
message and can read no more. -/
theorem stepReader_eq_none_iff :
    s.stepReader = none ↔ s.reader = .ended ∨
      (∃ message buffer, s.reader = .replying message buffer ∧ s.queueOpen = true ∧
        s.hasRoom = false) ∨
      ∃ buffer, s.reader = .reading buffer ∧ Frame.read? s.link.output.ended buffer = none ∧
        s.link.output.content.isEmpty = true := by
  unfold stepReader
  rcases hr : s.reader with buffer | ⟨message, buffer⟩ | _ | _
  · rcases read : Frame.read? s.link.output.ended buffer with _ | ⟨_ | _ | _, rest⟩ <;> simp [read]
  · cases s.queueOpen <;> cases s.hasRoom <;> simp
  · simp
  · simp

/-- The caller waits for room exactly if it has an order for a full queue; then no time limit runs.
-/
theorem stepCaller_of_awaitsRoom (h : s.caller.awaitsRoom = true) :
    (s.stepCaller = none ↔ s.queueOpen = true ∧ s.hasRoom = false) ∧ s.expire = none := by
  unfold stepCaller expire
  cases hc : s.caller with
  | sending | notifying | stopping => exact ⟨submit_eq_none_iff, rfl⟩
  | idle | registering | waiting | withdrawing | reaping | gone =>
      rw [hc] at h
      cases h

/-- A call that does not wait for room goes on: by itself, once the reader has let go of the list of
requests, or when its time limit expires. -/
theorem progress_of_not_awaitsRoom (busy : s.caller.isBusy = true)
    (other : s.caller.awaitsRoom = false) :
    s.stepCaller ≠ none ∨ s.expire ≠ none ∨ s.stepReader ≠ none := by
  -- the list of requests is held only by a reader that is about to empty it
  have held : s.locked = true → s.stepReader ≠ none := by
    intro h
    unfold locked at h
    unfold stepReader
    cases hr : s.reader with
    | clearing => simp
    | reading | replying | ended => simp [hr] at h
  cases hc : s.caller with
  | idle | gone =>
      rw [hc] at busy
      cases busy
  | sending | notifying | stopping =>
      rw [hc] at other
      cases other
  | registering purpose params =>
      by_cases locked : s.locked = true
      · exact .inr (.inr (held locked))
      · refine .inl ?_
        unfold stepCaller
        by_cases closed : s.closed = true <;> simp [hc, locked, closed]
  | withdrawing purpose id failure =>
      by_cases locked : s.locked = true
      · exact .inr (.inr (held locked))
      · refine .inl ?_
        unfold stepCaller
        simp [hc, locked]
  | waiting purpose id =>
      cases found : s.delivered.lookup id with
      | some body =>
          refine .inl ?_
          unfold stepCaller
          simp [hc, found]
      | none =>
          by_cases waiting : s.waiters.contains id = true
          · refine .inr (.inl ?_)
            unfold expire
            simp only [hc, found, waiting]
            simp
          · refine .inl ?_
            unfold stepCaller
            simp only [hc, found, waiting]
            simp
  | reaping =>
      by_cases alive : s.link.alive = true
      · refine .inr (.inl ?_)
        unfold expire
        simp [hc, alive]
      · refine .inl ?_
        unfold stepCaller
        simp [hc, alive]

/-- No step of the client is possible exactly if none of its parties can make one and no time limit
can expire. -/
theorem forall_ownActions :
    (∀ action ∈ ownActions, s.step action = none) ↔
      s.stepCaller = none ∧ s.stepReader = none ∧ s.stepWriter = none ∧ s.expire = none := by
  simp [ownActions, step, stepParty]

/-- **A call is stuck exactly in a jam.** -/
theorem forall_ownActions_iff_jammed (busy : s.caller.isBusy = true) :
    (∀ action ∈ ownActions, s.step action = none) ↔ Jammed s := by
  rw [forall_ownActions]
  constructor
  · rintro ⟨caller, reader, writer, expire⟩
    -- a call that waited for something else would go on
    have awaits : s.caller.awaitsRoom = true := by
      cases other : s.caller.awaitsRoom with
      | true => rfl
      | false =>
          rcases progress_of_not_awaitsRoom busy other with h | h | h
          · exact absurd caller h
          · exact absurd expire h
          · exact absurd reader h
    obtain ⟨opened, full⟩ := (stepCaller_of_awaitsRoom awaits).1.mp caller
    have blocked : Blocked s := by
      rcases stepWriter_eq_none_iff.mp writer with
        at_ | ⟨-, empty, -⟩ | ⟨byte, bytes, at_, held, pipe⟩
      · rw [queueOpen, at_] at opened
        cases opened
      · rw [hasRoom, empty] at full
        cases full
      · exact ⟨awaits, full, ⟨byte, bytes, at_⟩, held, pipe⟩
    refine ⟨blocked, ?_⟩
    rcases stepReader_eq_none_iff.mp reader with at_ | ⟨_, _, at_, -⟩ | ⟨_, at_, none, empty⟩
    · exact .ended at_
    · exact .replying at_
    · exact .reading at_ none empty
  · rintro ⟨⟨awaits, full, ⟨byte, bytes, at_⟩, held, pipe⟩, reader⟩
    have opened := queueOpen_of_writing at_
    obtain ⟨waits, untimed⟩ := stepCaller_of_awaitsRoom awaits
    refine ⟨waits.mpr ⟨opened, full⟩, stepReader_eq_none_iff.mpr ?_,
      stepWriter_eq_none_iff.mpr (.inr (.inr ⟨byte, bytes, at_, held, pipe⟩)), untimed⟩
    cases reader with
    | ended at_ => exact .inl at_
    | replying at_ => exact .inr (.inl ⟨_, _, at_, opened, full⟩)
    | reading at_ none empty => exact .inr (.inr ⟨_, at_, none, empty⟩)

end Conversation

/-- A move that does not free the writer leaves the input of the server alone. -/
theorem Link.input_of_not_frees {l l' : Link} {move : ServerMove} (moved : l.move? move = some l')
    (held : move.frees = false) : l'.input = l.input ∧ l'.capacity = l.capacity := by
  cases move with
  | take | closeInput | exit => cases held
  | write bytes =>
      simp only [Link.move?] at moved
      split at moved
      · split at moved
        · cases moved
          exact ⟨rfl, rfl⟩
        · split at moved
          · cases moved
            exact ⟨rfl, rfl⟩
          · cases moved
      · cases moved
  | closeOutput =>
      simp only [Link.move?] at moved
      split at moved
      · cases moved
        exact ⟨rfl, rfl⟩
      · cases moved

/-- A step that does not free the writer keeps the caller and the writer waiting. -/
theorem Step.blocked {s t : Conversation} {action : Action} {events : List Event}
    (made : Step s action t events) (h : Blocked s) (held : action.frees = false) :
    Blocked t ∧ t.caller = s.caller := by
  obtain ⟨awaits, full, ⟨byte, bytes, at_⟩, readable, pipe⟩ := h
  have opened := Conversation.queueOpen_of_writing at_
  cases made with
  | unlocatable idle | opening idle | closing idle | abandoned idle | expired idle | killed idle =>
      rw [idle] at awaits
      cases awaits
  | server moved =>
      obtain ⟨input, capacity⟩ := Link.input_of_not_frees moved held
      exact ⟨⟨awaits, full, ⟨byte, bytes, at_⟩, input ▸ readable, input ▸ capacity ▸ pipe⟩, rfl⟩
  | caller own =>
      -- the caller cannot move: the queue is open and full
      cases own <;> simp_all [CallerState.awaitsRoom]
  | reader own =>
      -- the reader may go on, but not put anything into the queue
      cases own with
      | replied _ _ room =>
          rw [room] at full
          cases full
      | cleared | unreplied | closed | fetched =>
          exact ⟨⟨awaits, full, ⟨byte, bytes, at_⟩, readable, pipe⟩, rfl⟩
      | dispatched _ _ own =>
          cases own <;> exact ⟨⟨awaits, full, ⟨byte, bytes, at_⟩, readable, pipe⟩, rfl⟩
  | writer own =>
      -- the writer cannot move: the pipe is held and full
      cases own <;> simp_all

namespace Conversation

variable {s t u : Conversation} {events : List Event}

/-- As long as the server frees no writer, a caller that waits for room waits. -/
theorem caller_of_blocked {more : List (Move Conversation Action Event)}
    (blocked : Blocked s) (h : History s more t)
    (held : ∀ move ∈ more, move.action.frees = false) : Blocked t ∧ t.caller = s.caller := by
  induction h with
  | nil => exact ⟨blocked, rfl⟩
  | concat _ made ih =>
      obtain ⟨still, same⟩ := ih fun move hm => held move (List.mem_append_left _ hm)
      obtain ⟨next, caller⟩ := (step_sound made).blocked still
        (held _ (List.mem_append_right _ (List.mem_singleton_self _)))
      exact ⟨next, caller.trans same⟩

/-- **A call can be stuck without its server exactly in a jam, and stays so until the server reads
its input, closes it, or ends.** In every other state of a call, whatever has led to it, a party of
the client can make a step or a time limit can expire. -/
theorem stuck_iff_jammed (busy : s.caller.isBusy = true) :
    ((∀ action ∈ ownActions, s.step action = none) ↔ Jammed s) ∧
      (Jammed s → ∀ more t, History s more t → (∀ move ∈ more, move.action.frees = false) →
        t.caller = s.caller) :=
  ⟨forall_ownActions_iff_jammed busy,
    fun jammed _ _ h held => (caller_of_blocked jammed.blocked h held).2⟩

/-- A client with a full queue, whose writer has one more byte than the pipe takes. -/
def cramped : Conversation where
  name := "kls"
  processId := .null
  nextId := 2
  closed := false
  waiters := []
  delivered := []
  queue := List.replicate queueCapacity (.send .null)
  caller := .stopping
  reader := .reading []
  writer := .writing [10]
  link := ⟨1, ⟨[10], true, true⟩, .fresh, true⟩

/-- The cramped client is busy, and can make no step of its own. -/
theorem stuck_iff_jammed_cramped :
    cramped.caller.isBusy = true ∧ ∀ action ∈ ownActions, cramped.step action = none :=
  ⟨rfl, (stuck_iff_jammed rfl).1.mpr
    ⟨⟨rfl, rfl, ⟨_, _, rfl⟩, rfl, rfl⟩, .reading rfl rfl rfl⟩⟩

/-! ## A server that does not read -/

/-- A request of the server. -/
def ping : Value := .object [("id", .int 0), ("method", .string "")]

/-- The reply to it. -/
def pong : Value := reply (.int 0) "" none

/-- `Pestered s t`: there is a way from the one state to the other on which the server does nothing
but make the same request. -/
def Pestered (s t : Conversation) : Prop :=
  ∃ moves, History s moves t ∧
    ∀ move ∈ moves, ∀ own, move.action = .server own → own = .write (Frame.encode ping)

/-- Every state can be reached from itself. -/
theorem Pestered.refl (s : Conversation) : Pestered s s :=
  ⟨[], .nil, fun _ hm => absurd hm List.not_mem_nil⟩

/-- One more step, of the client or with the request. -/
theorem Pestered.step (action : Action) (way : Pestered s t)
    (made : t.step action = some (u, events))
    (only : ∀ own, action = .server own → own = .write (Frame.encode ping)) : Pestered s u := by
  obtain ⟨moves, history, others⟩ := way
  refine ⟨_, history.concat made, fun move hm own h => ?_⟩
  rcases List.mem_append.mp hm with hm | hm
  · exact others move hm own h
  · rw [List.mem_singleton.mp hm] at h
    exact only own h

/-- What is reached by pestering a client twice is reached by pestering it. -/
theorem Pestered.trans (first : Pestered s t) (second : Pestered t u) :
    Pestered s u := by
  obtain ⟨moves, history, only⟩ := second
  induction history with
  | nil => exact first
  | concat _ made ih =>
      exact (ih fun move hm => only move (List.mem_append_left _ hm)).step _ made
        (only _ (List.mem_append_right _ (List.mem_singleton_self _)))

/-- A client between two messages of a server that runs and has written nothing. -/
structure Quiescent (s : Conversation) : Prop where
  /-- The reader has read everything. -/
  reader : s.reader = .reading []
  /-- The queue is open. -/
  opened : s.queueOpen = true
  /-- The server runs. -/
  alive : s.link.alive = true
  /-- It has written nothing that was not read. -/
  output : s.link.output = .fresh
  /-- The request fits into its pipe. -/
  fits : (Frame.encode ping).length ≤ s.link.capacity

/-- The request is complete. -/
theorem read_ping : Frame.read? false (Frame.encode ping) = some (.message ping, []) := rfl

/-- The request gets the reply. -/
theorem dispatch_ping (s : Conversation) :
    s.dispatch ping [] = ({ s with reader := .replying pong [] }, dispatchEvents s.name ping) := by
  have reaction : (react s.name ping).1 = .reply pong := by
    rw [react_fst]
    rfl
  refine Prod.ext ?_ (dispatch_snd s ping [])
  have own := dispatch_sound s ping []
  generalize (s.dispatch ping []).1 = t at own
  cases own with
  | asked other =>
      rw [reaction] at other
      cases other
      rfl
  | ignored other | delivered other | lost other =>
      rw [reaction] at other
      cases other

/-- The conversation with the request in the pipe from the server. -/
def asked (s : Conversation) : Conversation :=
  { s with link := { s.link with output := ⟨Frame.encode ping, true, true⟩ } }

namespace Quiescent

/-- The server can make the request. -/
theorem ask (h : Quiescent s) :
    s.step (.server (.write (Frame.encode ping))) = some (s.asked, []) := by
  simp [step, Link.move?, asked, h.alive, h.output, Pipe.fresh, Pipe.room, Pipe.write, h.fits]

/-- The reader takes the request out of the pipe. -/
theorem fetch (h : Quiescent s) :
    s.asked.step (.party .reader) =
      some ({ s with reader := .reading (Frame.encode ping) }, []) := by
  have waits : Frame.read? false [] = none := rfl
  have some_ : (Frame.encode ping).isEmpty = false := rfl
  have emptied : { s.asked.link with output := ⟨[], true, true⟩ } = s.link := by
    rw [← Pipe.fresh, ← h.output]
    rfl
  simp only [step, stepParty, stepReader, show s.asked.reader = .reading [] from h.reader,
    show s.asked.link.output = ⟨Frame.encode ping, true, true⟩ from rfl, Pipe.ended, Bool.not_true,
    Bool.and_false, waits, some_, Bool.false_eq_true, if_false, List.nil_append, emptied]
  rfl

/-- The reader makes the reply. -/
theorem answer (h : Quiescent s) :
    step { s with reader := .reading (Frame.encode ping) } (.party .reader) =
      some ({ s with reader := .replying pong [] }, dispatchEvents s.name ping) := by
  have unended : s.link.output.ended = false := by rw [h.output]; rfl
  simp only [step, stepParty, stepReader, unended, read_ping, dispatch_ping]

/-- The reader puts it into the queue. -/
theorem reply (h : Quiescent s) (room : s.hasRoom = true) :
    step { s with reader := .replying pong [] } (.party .reader) =
      some (s.enqueue (.send pong), [.queued .reader (.send pong)]) := by
  have back : ({ s with reader := .reading [] } : Conversation) = s := by rw [← h.reader]
  have opened : queueOpen { s with reader := .replying pong [] } = true := h.opened
  have room : hasRoom { s with reader := .replying pong [] } = true := room
  simp only [step, stepParty, stepReader, opened, room, Bool.not_true, Bool.false_eq_true, if_false,
    if_true, back]

/-- **A request of a server that has written nothing else puts one reply into the queue.** -/
theorem round (h : Quiescent s) (room : s.hasRoom = true) :
    Pestered s (s.enqueue (.send pong)) := by
  have asked := (Pestered.refl s).step _ h.ask (by simp)
  have fetched := asked.step _ h.fetch (by simp)
  have answered := fetched.step _ h.answer (by simp)
  exact answered.step _ (h.reply room) (by simp)

/-- Another queue makes no difference. -/
theorem queued (h : Quiescent s) (queue : List Order) : Quiescent { s with queue } :=
  ⟨h.reader, h.opened, h.alive, h.output, h.fits⟩

/-- Several requests put as many replies into the queue. -/
theorem rounds (h : Quiescent s) (n : Nat) (room : s.queue.length + n ≤ queueCapacity) :
    Pestered s { s with queue := s.queue ++ List.replicate n (.send pong) } := by
  induction n with
  | zero =>
      rw [List.replicate_zero, List.append_nil]
      exact .refl s
  | succ n ih =>
      refine (ih (by omega)).trans ?_
      have last := (h.queued (s.queue ++ List.replicate n (.send pong))).round
        (by simp [hasRoom]; omega)
      rwa [enqueue, List.append_assoc, ← List.replicate_succ'] at last

end Quiescent

/-- A client with an empty queue whose writer waits for orders. -/
structure Open (s : Conversation) : Prop where
  /-- It is between two messages. -/
  quiescent : Quiescent s
  /-- The queue is empty. -/
  empty : s.queue = []
  /-- The writer waits for orders. -/
  receiving : s.writer = .receiving
  /-- The server holds its input. -/
  held : s.link.input.readable = true

/-- The conversation after the writer has taken an order and written some bytes. -/
def written (s : Conversation) (chunk : Bytes) (writer : WriterState) : Conversation :=
  { s with writer, link := { s.link with input := s.link.input.write chunk } }

/-- What is written later comes behind what was written before. -/
theorem written_written (s : Conversation) (first second : Bytes) (between writer : WriterState) :
    (s.written first between).written second writer = s.written (first ++ second) writer := by
  simp [written, Pipe.write]

/-- What was written takes room from the pipe. -/
theorem room_written (s : Conversation) (chunk : Bytes) (writer : WriterState) :
    (s.written chunk writer).link.input.room (s.written chunk writer).link.capacity =
      s.link.input.room s.link.capacity - chunk.length := by
  simp [written, Pipe.write, Pipe.room, Nat.sub_add_eq]

/-- A writer that has room writes as much as there is room for. -/
theorem stepWriter_of_room {byte : UInt8} {bytes : Bytes}
    (at_ : s.writer = .writing (byte :: bytes)) (held : s.link.input.readable = true)
    (room : s.link.input.room s.link.capacity ≠ 0) :
    s.step (.party .writer) =
      some (s.written ((byte :: bytes).take (s.link.input.room s.link.capacity))
        (.writing ((byte :: bytes).drop (s.link.input.room s.link.capacity))),
        [.wrote ((byte :: bytes).take (s.link.input.room s.link.capacity))]) := by
  simp only [step, stepParty, stepWriter, at_, held, room, Bool.not_true, Bool.false_eq_true,
    if_false]
  rfl

namespace Open

/-- A reply gets to the writer. -/
theorem take (h : Open s) : Pestered s (s.written [] (.writing (Frame.encode pong))) := by
  have first := h.quiescent.round (by rw [hasRoom, h.empty]; rfl)
  refine first.step (.party .writer) (?_ : _ = some (_, [])) (by simp)
  simp only [step, stepParty, stepWriter, enqueue, h.empty, h.receiving, List.nil_append, written,
    Pipe.write, List.append_nil]

/-- The writer writes as much of it as there is room for. -/
theorem write (h : Open s) (room : s.link.input.room s.link.capacity ≠ 0) :
    Pestered s (s.written ((Frame.encode pong).take (s.link.input.room s.link.capacity))
      (.writing ((Frame.encode pong).drop (s.link.input.room s.link.capacity)))) := by
  obtain ⟨byte, bytes, text⟩ : ∃ byte bytes, Frame.encode pong = byte :: bytes := ⟨_, _, rfl⟩
  have taken := h.take
  rw [text] at taken ⊢
  have free := room_written s [] (.writing (byte :: bytes))
  rw [List.length_nil, Nat.sub_zero] at free
  have made := stepWriter_of_room (s := s.written [] (.writing (byte :: bytes))) rfl h.held
    (free ▸ room)
  rw [free, written_written, List.nil_append] at made
  exact taken.step _ made (by simp)

end Open

/-- **The replies fill the pipe until the writer waits.** The induction is on the room in the pipe:
each reply takes some of it. -/
theorem Open.clog (h : Open s) :
    ∃ chunk writer, Pestered s (s.written chunk writer) ∧ Clogged (s.written chunk writer) := by
  induction size : s.link.input.room s.link.capacity using Nat.strongRecOn generalizing s with
  | _ n ih =>
    by_cases full : n = 0
    · refine ⟨_, _, h.take, ⟨_, _, rfl⟩, h.held, ?_⟩
      rw [room_written, size, full, Nat.zero_sub]
    · have way := h.write (size ▸ full)
      rw [size] at way
      -- the reply is not empty, so it takes some of the room
      have less : ((Frame.encode pong).take n).length ≠ 0 := by
        rw [List.length_take]
        have : (Frame.encode pong).length ≠ 0 := by decide +kernel
        omega
      rcases rest : (Frame.encode pong).drop n with _ | ⟨byte, bytes⟩
      · -- the whole reply is written, and there is a next one
        rw [rest] at way
        have way : Pestered s (s.written ((Frame.encode pong).take n) .receiving) :=
          way.step (.party .writer) (rfl : _ = some (_, [])) (by simp)
        have again : Open (s.written ((Frame.encode pong).take n) .receiving) :=
          ⟨⟨h.quiescent.reader, rfl, h.quiescent.alive, h.quiescent.output, h.quiescent.fits⟩,
            h.empty, rfl, h.held⟩
        obtain ⟨chunk, writer, more, clogged⟩ :=
          ih _ (by rw [room_written, size]; omega) again rfl
        rw [written_written] at more clogged
        exact ⟨_, _, way.trans more, clogged⟩
      · -- the rest of the reply has to wait
        refine ⟨_, _, way, ⟨byte, bytes, congrArg _ rest⟩, h.held, ?_⟩
        rw [room_written, size, List.length_take]
        have : ((Frame.encode pong).drop n).length ≠ 0 := by rw [rest]; simp
        rw [List.length_drop] at this
        omega

/-- **A server that only makes requests jams a client that is about to close the conversation.** -/
theorem exists_jam (name : String) (processId : Value) (capacity : Nat)
    (fits : (Frame.encode ping).length ≤ capacity) :
    ∃ s id message, Pestered (fresh name processId capacity) s ∧
      s.caller = .sending .closing id message ∧ s.link.alive = true ∧ Jammed s := by
  have opened : Open (fresh name processId capacity) := ⟨⟨rfl, rfl, rfl, rfl, fits⟩, rfl, rfl, rfl⟩
  obtain ⟨chunk, writer, way, clogged⟩ := opened.clog
  have still := queueOpen_of_writing clogged.writer.choose_spec.choose_spec
  have quiescent : Quiescent ((fresh name processId capacity).written chunk writer) :=
    ⟨rfl, still, rfl, rfl, fits⟩
  have way := way.trans (quiescent.rounds queueCapacity (Nat.le_of_eq (Nat.zero_add _)))
  have way := way.step (.call .close) rfl (by simp)
  have way := way.step (.party .caller) rfl (by simp)
  exact ⟨_, _, _, way, rfl, rfl, ⟨rfl, rfl, ⟨clogged.writer, clogged.held, clogged.pipe⟩⟩,
    .reading rfl rfl rfl⟩

/-- The caller that closes the conversation of a server with a pipe of 64 KiB never comes to the
point where it kills the server, if the server reads nothing. -/
theorem closing_can_jam :
    ∃ s id message, Pestered (fresh "kls" .null 65536) s ∧
      s.caller = .sending .closing id message ∧ s.link.alive = true ∧
      (∀ action ∈ ownActions, s.step action = none) ∧
      ∀ more t, History s more t → (∀ move ∈ more, move.action.frees = false) →
        t.caller = .sending .closing id message := by
  obtain ⟨s, id, message, way, caller, alive, jammed⟩ :=
    exists_jam "kls" .null 65536 (by decide +kernel)
  have busy : s.caller.isBusy = true := by rw [caller]; rfl
  exact ⟨s, id, message, way, caller, alive, (forall_ownActions_iff_jammed busy).mpr jammed,
    fun _ _ h held => (caller_of_blocked jammed.blocked h held).2.trans caller⟩

end Conversation

end ToolingHost.Client
