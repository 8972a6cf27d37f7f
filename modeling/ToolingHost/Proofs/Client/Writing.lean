import ToolingHost.Proofs.Client.Step

/-! # What is written to the server

The caller and the reader put orders into one queue, and the writer alone writes to the server: it
takes one order after the other, writes a message in as many parts as the pipe makes necessary, and
ends when it is told to stop, when a write fails, or when nobody is left to give orders. `Written`
relates what has been written to the orders that the queue has accepted, wherever the writer stands,
and every step keeps it.

A message is written in several parts, and each of them may be shorter than the room in the pipe, or
fail, whatever the reason. `hazard` adds these to the steps of a conversation, so that nothing
depends on where the parts end (`messages_written_in_order`). -/

namespace ToolingHost.Client

open ToolingHost.Json

/-! ## What happened -/

/-- The order that the queue accepted, if the event is that. -/
def Event.accepted? : Event → Option Order
  | .queued _ order => some order
  | _ => none

/-- The bytes that were written to the server, if the event is that. -/
def Event.written : Event → Bytes
  | .wrote bytes => bytes
  | _ => []

/-- The orders that the queue accepted from either side, in order. -/
def acceptedIn (events : List Event) : List Order := events.filterMap Event.accepted?

/-- The bytes that were written to the server, in order. -/
def writtenIn (events : List Event) : Bytes := events.flatMap Event.written

/-- No order is accepted when nothing happens. -/
@[simp] theorem acceptedIn_nil : acceptedIn [] = [] := rfl

/-- Nothing is written when nothing happens. -/
@[simp] theorem writtenIn_nil : writtenIn [] = [] := rfl

/-- Orders are accepted one after the other. -/
@[simp] theorem acceptedIn_append (first second : List Event) :
    acceptedIn (first ++ second) = acceptedIn first ++ acceptedIn second :=
  List.filterMap_append

/-- Bytes are written one after the other. -/
@[simp] theorem writtenIn_append (first second : List Event) :
    writtenIn (first ++ second) = writtenIn first ++ writtenIn second :=
  List.flatMap_append

/-- An order that is accepted comes before those that follow. -/
@[simp] theorem acceptedIn_cons (event : Event) (rest : List Event) :
    acceptedIn (event :: rest) = event.accepted?.toList ++ acceptedIn rest := by
  unfold acceptedIn
  cases h : event.accepted? <;> simp [h]

/-- Bytes that are written come before those that follow. -/
@[simp] theorem writtenIn_cons (event : Event) (rest : List Event) :
    writtenIn (event :: rest) = event.written ++ writtenIn rest :=
  List.flatMap_cons

/-- A write accepts no order. -/
theorem acceptedIn_wrote (bytes : Bytes) : acceptedIn [.wrote bytes] = [] := rfl

/-- A write writes its bytes. -/
theorem writtenIn_wrote (bytes : Bytes) : writtenIn [.wrote bytes] = bytes := List.append_nil bytes

/-! ## Steps of the others -/

/-- Nothing happens that concerns the writer. -/
structure Quiet (events : List Event) : Prop where
  /-- The queue accepts nothing. -/
  accepted : acceptedIn events = []
  /-- Nothing is written. -/
  written : writtenIn events = []

/-- Where nothing happens, nothing concerns the writer. -/
theorem Quiet.nil : Quiet [] := ⟨rfl, rfl⟩

/-- What is written into the log does not concern the writer. -/
theorem Quiet.logged (party : Party) (records : List Log.Record) :
    Quiet (records.map (Event.logged party)) := by
  induction records with
  | nil => exact .nil
  | cons record rest ih => exact ⟨ih.accepted, ih.written⟩

/-- A call that fails does not concern the writer. -/
theorem Purpose.quiet_failed (purpose : Purpose) (failure : Failure) :
    Quiet (purpose.failed failure) := by
  cases purpose <;> exact ⟨rfl, rfl⟩

/-- The end of a request does not concern the writer, apart from the notification. -/
theorem Purpose.quiet_announced (purpose : Purpose) (sent : Bool) :
    Quiet (purpose.announced sent) := by
  cases purpose <;> exact ⟨rfl, rfl⟩

/-- What a step that is not the writer's means to the writer: the queue gets longer at its end, and
nothing else happens. -/
structure Supplies (s t : Conversation) (events : List Event) : Prop where
  /-- The writer stands where it stood. -/
  writer : t.writer = s.writer
  /-- What the queue accepts comes last in it. -/
  queue : t.queue = s.queue ++ acceptedIn events
  /-- A queue whose writer has ended accepts nothing. -/
  shut : s.writer = .ended → acceptedIn events = []
  /-- Nothing is written. -/
  written : writtenIn events = []

section Supplies

variable {s t : Conversation} {action : Action} {events : List Event}

/-- A step that leaves the queue alone supplies the writer with nothing. -/
theorem Supplies.of_quiet (writer : t.writer = s.writer) (queue : t.queue = s.queue)
    (quiet : Quiet events) : Supplies s t events :=
  ⟨writer, by rw [queue, quiet.accepted, List.append_nil], fun _ => quiet.accepted, quiet.written⟩

/-- A step that puts an order into the open queue supplies the writer with it. -/
theorem Supplies.of_queued {party : Party} {order : Order} (writer : t.writer = s.writer)
    (queue : t.queue = s.queue ++ [order]) (opened : s.queueOpen = true) (quiet : Quiet events) :
    Supplies s t (.queued party order :: events) where
  writer := writer
  queue := by rw [queue, acceptedIn_cons, quiet.accepted]; rfl
  shut := by
    intro ended
    rw [Conversation.queueOpen, ended] at opened
    cases opened
  written := quiet.written

/-- The caller supplies the writer. -/
theorem CallerStep.supplies (own : CallerStep s t events) : Supplies s t events := by
  cases own with
  | @refused purpose | @rejected purpose | @withdrawn purpose =>
      exact .of_quiet rfl rfl (purpose.quiet_failed _)
  | @unnotified purpose => exact .of_quiet rfl rfl (purpose.quiet_announced false)
  | registered | unsent | accepted | orphaned | unstopped => exact .of_quiet rfl rfl .nil
  | reaped => exact .of_quiet rfl rfl ⟨rfl, rfl⟩
  | sent _ opened | stopped _ opened => exact .of_queued rfl rfl opened .nil
  | @notified purpose _ opened => exact .of_queued rfl rfl opened (purpose.quiet_announced true)

/-- The reader supplies the writer. -/
theorem ReaderStep.supplies (own : ReaderStep s t events) : Supplies s t events := by
  cases own with
  | cleared | unreplied | fetched => exact .of_quiet rfl rfl .nil
  | @closed record => exact .of_quiet rfl rfl (.logged .reader [record])
  | replied _ opened => exact .of_queued rfl rfl opened .nil
  | @dispatched _ frame _ _ _ _ own =>
      have quiet : Quiet ((react s.name frame).2.map (Event.logged .reader)) := .logged ..
      exact .of_quiet own.writer_eq (by cases own <;> rfl) ⟨quiet.accepted, quiet.written⟩

/-- **Every step is the writer's or supplies the writer.** -/
theorem Step.supplies_or (made : Step s action t events) :
    action = .party .writer ∧ WriterStep s t events ∨
      action ≠ .party .writer ∧ Supplies s t events := by
  cases made with
  | writer own => exact .inl ⟨rfl, own⟩
  | caller own => exact .inr ⟨nofun, own.supplies⟩
  | reader own => exact .inr ⟨nofun, own.supplies⟩
  | opening | abandoned | expired | server => exact .inr ⟨nofun, .of_quiet rfl rfl .nil⟩
  | unlocatable | closing | killed => exact .inr ⟨nofun, .of_quiet rfl rfl ⟨rfl, rfl⟩⟩

end Supplies

/-! ## What the server reads -/

/-- How many bytes of its input the server reads in a move. -/
def ServerMove.reads : ServerMove → Nat
  | .take count => count
  | _ => 0

/-- How many bytes of its input the server reads in a step. -/
def Action.reads : Action → Nat
  | .server move => move.reads
  | _ => 0

/-- A move of the server takes what it reads off its input. -/
theorem Link.input_of_move? {l l' : Link} {move : ServerMove} (moved : l.move? move = some l') :
    l'.input.content = l.input.content.drop move.reads := by
  cases move with
  | take count =>
      simp only [Link.move?] at moved
      split at moved
      · cases moved
        rfl
      · cases moved
  | write bytes =>
      simp only [Link.move?] at moved
      split at moved
      · split at moved
        · cases moved
          rfl
        · split at moved
          · cases moved
            rfl
          · cases moved
      · cases moved
  | closeInput | closeOutput | exit =>
      simp only [Link.move?] at moved
      split at moved
      · cases moved
        rfl
      · cases moved

/-- A step takes what the server reads off its input, and adds what is written. -/
theorem Step.input_eq {s t : Conversation} {action : Action} {events : List Event}
    (made : Step s action t events) :
    t.link.input.content = s.link.input.content.drop action.reads ++ writtenIn events := by
  cases made with
  | unlocatable | opening | closing | abandoned | expired | killed =>
      simp [Action.reads, Event.written, Link.kill]
  | server moved => rw [Link.input_of_move? moved, writtenIn_nil, List.append_nil, Action.reads]
  | caller own =>
      rw [own.supplies.written, List.append_nil]
      change t.link.input.content = s.link.input.content
      cases own <;> rfl
  | reader own =>
      rw [own.supplies.written, List.append_nil]
      change t.link.input.content = s.link.input.content
      cases own with
      | dispatched _ _ own => cases own <;> rfl
      | _ => rfl
  | writer own =>
      cases own <;> simp [Action.reads, Event.written, Conversation.endWriter, Pipe.write]

/-! ## Writes that fail -/

namespace Conversation

/-- A step of a conversation, or something else that a write may do. -/
inductive Hazard where
  /-- A step of the conversation. -/
  | act (action : Action)
  /-- At most a number of bytes are written, whatever room there is for more. -/
  | short (count : Nat)
  /-- The write fails, or the flush after the last one. -/
  | fail

/-- A step of a conversation whose writes may be short, and may fail at any point. -/
def hazard (s : Conversation) : Hazard → StepResult
  | .act action => s.step action
  | .short count =>
    match s.writer with
    | .writing rest =>
      if s.link.input.readable && count ≤ s.link.input.room s.link.capacity then
        some ({ s with
          writer := .writing (rest.drop count)
          link := { s.link with input := s.link.input.write (rest.take count) } },
          [.wrote (rest.take count)])
      else none
    | _ => none
  | .fail =>
    match s.writer with
    | .writing _ => some (s.endWriter, [.logged .writer (unwritableRecord s.name)])
    | _ => none

/-- A write fails in a step. -/
inductive Fails (s : Conversation) : Hazard → Prop where
  /-- There is something to write, and nobody reads the input of the server any more. -/
  | unread {byte : UInt8} {bytes : Bytes} (at_ : s.writer = .writing (byte :: bytes))
      (broken : s.link.input.readable = false) : Fails s (.act (.party .writer))
  /-- It fails for another reason. -/
  | refused : Fails s .fail

/-- The writer's own step fails exactly if there is something to write that nobody reads. -/
@[simp] theorem fails_writer_iff {s : Conversation} :
    Fails s (.act (.party .writer)) ↔
      (∃ byte bytes, s.writer = .writing (byte :: bytes)) ∧ s.link.input.readable = false :=
  ⟨fun | .unread at_ broken => ⟨⟨_, _, at_⟩, broken⟩,
    fun ⟨⟨_, _, at_⟩, broken⟩ => .unread at_ broken⟩

/-- A write fails in some move. -/
def WriteFailedIn (moves : List (Move Conversation Hazard Event)) : Prop :=
  ∃ move ∈ moves, Fails move.source move.action

/-- No write fails when no move is made. -/
@[simp] theorem not_writeFailedIn_nil : ¬WriteFailedIn [] := by
  simp [WriteFailedIn]

/-- A write failed in one part or in the other. -/
@[simp] theorem writeFailedIn_append {first second : List (Move Conversation Hazard Event)} :
    WriteFailedIn (first ++ second) ↔ WriteFailedIn first ∨ WriteFailedIn second := by
  simp [WriteFailedIn, or_and_right, exists_or]

/-- In a single move a write failed if it fails in that. -/
@[simp] theorem writeFailedIn_singleton {move : Move Conversation Hazard Event} :
    WriteFailedIn [move] ↔ Fails move.source move.action := by
  simp [WriteFailedIn]

end Conversation

/-! ## What has been written -/

/-- The messages that are to be sent before the first order to stop. -/
def messagesBeforeStop : List Order → List Value
  | .send message :: rest => message :: messagesBeforeStop rest
  | _ => []

/-- No message counts once there is an order to stop. -/
@[simp] theorem messagesBeforeStop_stop (rest : List Order) :
    messagesBeforeStop (.stop :: rest) = [] := rfl

/-- Messages at the beginning are before the first order to stop. -/
@[simp] theorem messagesBeforeStop_append (sent : List Value) (rest : List Order) :
    messagesBeforeStop (sent.map .send ++ rest) = sent ++ messagesBeforeStop rest := by
  induction sent with
  | nil => rfl
  | cons message more ih => simp [messagesBeforeStop, ih]

/-- `Written s accepted written failed`: what the writer has made of the orders that the queue has
accepted, the bytes that have been written, and whether a write has failed. -/
inductive Written (s : Conversation) (accepted : List Order) (written : Bytes) (failed : Prop) :
    Prop where
  /-- Some messages have been written, and the other orders are in the queue. -/
  | receiving {sent : List Value} (at_ : s.writer = .receiving)
      (orders : accepted = sent.map .send ++ s.queue) (bytes : written = Frame.encodeAll sent)
      (unfailed : ¬failed)
  /-- A part of the next message has been written too. -/
  | writing {sent : List Value} {next : Value} {part rest : Bytes} (at_ : s.writer = .writing rest)
      (orders : accepted = sent.map .send ++ .send next :: s.queue)
      (bytes : written = Frame.encodeAll sent ++ part) (whole : part ++ rest = Frame.encode next)
      (unfailed : ¬failed)
  /-- The writer has been told to stop. -/
  | stopped {sent : List Value} {later : List Order} (at_ : s.writer = .ended)
      (orders : accepted = sent.map .send ++ .stop :: later)
      (bytes : written = Frame.encodeAll sent) (unfailed : ¬failed)
  /-- Nobody is left to give orders. -/
  | unattended {sent : List Value} (at_ : s.writer = .ended) (orders : accepted = sent.map .send)
      (bytes : written = Frame.encodeAll sent) (unfailed : ¬failed)
  /-- A write has failed. -/
  | broken {sent : List Value} {next : Value} {part : Bytes} {later : List Order}
      (at_ : s.writer = .ended) (orders : accepted = sent.map .send ++ .send next :: later)
      (bytes : written = Frame.encodeAll sent ++ part) (few : part <+: Frame.encode next)
      (failed : failed)

namespace Written

variable {s t : Conversation} {accepted : List Order} {written : Bytes} {failed : Prop}
  {events : List Event}

/-- Messages that have been written are followed by the next one. -/
theorem encodeAll_concat (sent : List Value) (next : Value) :
    Frame.encodeAll (sent ++ [next]) = Frame.encodeAll sent ++ Frame.encode next := by
  simp [Frame.encodeAll]

/-- The steps of the others change nothing of what has been written. -/
theorem supplied {more : Prop} (h : Written s accepted written failed) (own : Supplies s t events)
    (well : ¬more) :
    Written t (accepted ++ acceptedIn events) (written ++ writtenIn events) (failed ∨ more) := by
  rw [own.written, List.append_nil]
  cases h with
  | receiving at_ orders bytes unfailed =>
      exact .receiving (own.writer.trans at_) (by rw [orders, own.queue, List.append_assoc]) bytes
        (not_or.mpr ⟨unfailed, well⟩)
  | writing at_ orders bytes whole unfailed =>
      exact .writing (own.writer.trans at_) (by rw [orders, own.queue]; simp) bytes whole
        (not_or.mpr ⟨unfailed, well⟩)
  | stopped at_ orders bytes unfailed =>
      exact .stopped (own.writer.trans at_) (by rw [orders, List.append_assoc]; rfl) bytes
        (not_or.mpr ⟨unfailed, well⟩)
  | unattended at_ orders bytes unfailed =>
      exact .unattended (own.writer.trans at_) (by rw [own.shut at_, List.append_nil, orders]) bytes
        (not_or.mpr ⟨unfailed, well⟩)
  | broken at_ orders bytes few failed =>
      exact .broken (own.writer.trans at_) (by rw [orders, List.append_assoc]; rfl) bytes few
        (.inl failed)

/-- What has been written while the writer waits for orders. -/
theorem of_receiving (h : Written s accepted written failed) (at_ : s.writer = .receiving) :
    ∃ sent, accepted = sent.map .send ++ s.queue ∧ written = Frame.encodeAll sent ∧ ¬failed := by
  cases h with
  | receiving _ orders bytes unfailed => exact ⟨_, orders, bytes, unfailed⟩
  | writing at' | stopped at' | unattended at' | broken at' =>
      rw [at_] at at'
      cases at'

/-- What has been written while the rest of a message is left. -/
theorem of_writing (h : Written s accepted written failed) {rest : Bytes}
    (at_ : s.writer = .writing rest) :
    ∃ sent next part, accepted = sent.map .send ++ .send next :: s.queue ∧
      written = Frame.encodeAll sent ++ part ∧ part ++ rest = Frame.encode next ∧ ¬failed := by
  cases h with
  | writing at' orders bytes whole unfailed =>
      rw [at_, WriterState.writing.injEq] at at'
      subst at'
      exact ⟨_, _, _, orders, bytes, whole, unfailed⟩
  | receiving at' | stopped at' | unattended at' | broken at' =>
      rw [at_] at at'
      cases at'

/-- However many bytes of a message are written, a part of it has been written then. -/
theorem wrote {more : Prop} (h : Written s accepted written failed) {rest : Bytes}
    (at_ : s.writer = .writing rest) (count : Nat) (after : t.writer = .writing (rest.drop count))
    (queue : t.queue = s.queue) (well : ¬more) :
    Written t accepted (written ++ rest.take count) (failed ∨ more) := by
  obtain ⟨sent, next, part, orders, bytes, whole, unfailed⟩ := h.of_writing at_
  refine .writing after (by rw [orders, queue]) (by rw [bytes, List.append_assoc]) ?_
    (not_or.mpr ⟨unfailed, well⟩)
  rw [List.append_assoc, List.take_append_drop, whole]

/-- A write may fail wherever the writer stands in a message. -/
theorem broke {more : Prop} (h : Written s accepted written failed) {rest : Bytes}
    (at_ : s.writer = .writing rest) (ended : t.writer = .ended) (fails : more) :
    Written t accepted written (failed ∨ more) := by
  obtain ⟨sent, next, part, orders, bytes, whole, -⟩ := h.of_writing at_
  exact .broken ended orders bytes ⟨rest, whole⟩ (.inr fails)

/-- A write that has failed has ended the writer for good. -/
theorem ended (h : Written s accepted written failed) (hf : failed) : s.writer = .ended := by
  cases h with
  | broken at_ => exact at_
  | receiving _ _ _ unfailed | writing _ _ _ _ unfailed | stopped _ _ _ unfailed
    | unattended _ _ _ unfailed => exact absurd hf unfailed

/-- What has been written is the written forms of the first messages and a part of the next. -/
theorem messages (h : Written s accepted written failed) :
    ∃ sent part,
      written = Frame.encodeAll sent ++ part ∧
      sent <+: messagesBeforeStop accepted ∧
      (part ≠ [] → ∃ next,
        sent ++ [next] <+: messagesBeforeStop accepted ∧
        ((∃ rest, s.writer = .writing rest ∧ part ++ rest = Frame.encode next) ∨
          (failed ∧ part <+: Frame.encode next))) ∧
      (s.writer = .ended → ¬failed → part = [] ∧ sent = messagesBeforeStop accepted) := by
  -- what was accepted is what was written, then perhaps a message under way, then the queue
  cases h with
  | @receiving sent at_ orders bytes unfailed =>
      rw [orders, messagesBeforeStop_append]
      refine ⟨sent, [], by simpa using bytes, List.prefix_append .., by simp, fun ended => ?_⟩
      rw [at_] at ended
      cases ended
  | @writing sent next part rest at_ orders bytes whole unfailed =>
      rw [orders, messagesBeforeStop_append, messagesBeforeStop]
      refine ⟨sent, part, bytes, List.prefix_append ..,
        fun _ => ⟨next, ?_, .inl ⟨rest, at_, whole⟩⟩, fun ended => ?_⟩
      · exact ⟨messagesBeforeStop s.queue, by simp⟩
      · rw [at_] at ended
        cases ended
  | @stopped sent later at_ orders bytes unfailed =>
      rw [orders, messagesBeforeStop_append, messagesBeforeStop_stop, List.append_nil]
      exact ⟨sent, [], by simpa using bytes, List.prefix_refl _, by simp, fun _ _ => ⟨rfl, rfl⟩⟩
  | @unattended sent at_ orders bytes unfailed =>
      have all : messagesBeforeStop accepted = sent := by
        simpa [orders, messagesBeforeStop] using messagesBeforeStop_append sent []
      rw [all]
      exact ⟨sent, [], by simpa using bytes, List.prefix_refl _, by simp, fun _ _ => ⟨rfl, rfl⟩⟩
  | @broken sent next part later at_ orders bytes few failed =>
      rw [orders, messagesBeforeStop_append, messagesBeforeStop]
      refine ⟨sent, part, bytes, List.prefix_append .., fun _ => ⟨next, ?_, .inr ⟨failed, few⟩⟩,
        fun _ unfailed => absurd failed unfailed⟩
      exact ⟨messagesBeforeStop later, by simp⟩

/-- The steps of the writer take what has been written further. -/
theorem writerStep (h : Written s accepted written failed) (own : WriterStep s t events) :
    Written t (accepted ++ acceptedIn events) (written ++ writtenIn events)
      (failed ∨ s.Fails (.act (.party .writer))) := by
  -- a write of the writer fails only where nobody reads, and then it is the last one
  cases own with
  | taken at_ first =>
      have well : ¬s.Fails (.act (.party .writer)) := by simp [at_]
      obtain ⟨sent, orders, bytes, unfailed⟩ := h.of_receiving at_
      rw [first] at orders
      have nothing : written ++ writtenIn [] = Frame.encodeAll sent ++ [] := by simpa using bytes
      exact .writing rfl (by simpa using orders) nothing rfl (not_or.mpr ⟨unfailed, well⟩)
  | stopped at_ first =>
      have well : ¬s.Fails (.act (.party .writer)) := by simp [at_]
      obtain ⟨sent, orders, bytes, unfailed⟩ := h.of_receiving at_
      rw [first] at orders
      have nothing : written ++ writtenIn [] = Frame.encodeAll sent := by simpa using bytes
      exact .stopped rfl (by simpa using orders) nothing (not_or.mpr ⟨unfailed, well⟩)
  | unattended at_ empty =>
      have well : ¬s.Fails (.act (.party .writer)) := by simp [at_]
      obtain ⟨sent, orders, bytes, unfailed⟩ := h.of_receiving at_
      rw [empty, List.append_nil] at orders
      have nothing : written ++ writtenIn [] = Frame.encodeAll sent := by simpa using bytes
      exact .unattended rfl (by simpa using orders) nothing (not_or.mpr ⟨unfailed, well⟩)
  | finished at_ =>
      have well : ¬s.Fails (.act (.party .writer)) := by simp [at_]
      obtain ⟨sent, next, part, orders, bytes, whole, unfailed⟩ := h.of_writing at_
      rw [List.append_nil] at whole
      have one_more : written ++ writtenIn [] = Frame.encodeAll (sent ++ [next]) := by
        rw [encodeAll_concat, bytes, whole, writtenIn_nil, List.append_nil]
      exact .receiving rfl (by simpa using orders) one_more (not_or.mpr ⟨unfailed, well⟩)
  | failed at_ broken =>
      have fails : s.Fails (.act (.party .writer)) := .unread at_ broken
      simpa [Event.accepted?, Event.written] using h.broke at_ rfl fails
  | wrote at_ whole =>
      have well : ¬s.Fails (.act (.party .writer)) := by simp [whole]
      rw [acceptedIn_wrote, writtenIn_wrote, List.append_nil]
      exact h.wrote at_ _ rfl rfl well

end Written

namespace Conversation

/-- The bytes of its input that the server reads in a move. -/
def readBy (move : Move Conversation Hazard Event) : Bytes :=
  match move.action with
  | .act action => move.source.link.input.content.take action.reads
  | _ => []

/-- The bytes of its input that the server reads in some moves, in order. -/
def readIn (moves : List (Move Conversation Hazard Event)) : Bytes := moves.flatMap readBy

variable {s t : Conversation} {hazard_ : Hazard} {events : List Event}

/-- Every step takes what has been written further, also where writes may fail. -/
theorem written_of_hazard {accepted : List Order} {written : Bytes} {failed : Prop}
    (h : Written s accepted written failed) (made : s.hazard hazard_ = some (t, events)) :
    Written t (accepted ++ acceptedIn events) (written ++ writtenIn events)
      (failed ∨ Fails s hazard_) := by
  cases hazard_ with
  | act action =>
      -- a step of the writer, or one that may put something into the queue
      rcases (step_sound made).supplies_or with ⟨rfl, own⟩ | ⟨other, own⟩
      · exact h.writerStep own
      · refine h.supplied own ?_
        rintro ⟨-⟩
        exact other rfl
  | short count =>
      simp only [hazard] at made
      split at made
      · rename_i rest at_
        split at made
        · cases made
          have well : ¬Fails s (.short count) := nofun
          rw [acceptedIn_wrote, writtenIn_wrote, List.append_nil]
          exact h.wrote at_ count rfl rfl well
        · cases made
      · cases made
  | fail =>
      simp only [hazard] at made
      split at made
      · rename_i rest at_
        cases made
        have fails : Fails s .fail := .refused
        simpa [Event.accepted?, Event.written] using h.broke at_ rfl fails
      · cases made

/-- What the server reads comes from its input, and what is written goes there. -/
theorem readBy_append_input (made : s.hazard hazard_ = some (t, events)) :
    readBy ⟨s, hazard_, t, events⟩ ++ t.link.input.content =
      s.link.input.content ++ writtenIn events := by
  cases hazard_ with
  | act action =>
      rw [readBy, (step_sound made).input_eq, ← List.append_assoc, List.take_append_drop]
  | short count =>
      simp only [hazard] at made
      split at made
      · split at made
        · cases made
          simp [readBy, Pipe.write, Event.written]
        · cases made
      · cases made
  | fail =>
      simp only [hazard] at made
      split at made
      · cases made
        simp [readBy, endWriter, Event.written]
      · cases made

/-- What has been written is what has been made of the accepted orders, after every history of a
client whose writes may fail. -/
theorem written_of_history {name : String} {processId : Value} {capacity : Nat}
    {moves : List (Move Conversation Hazard Event)}
    (h : ToolingHost.History hazard (fresh name processId capacity) moves s) :
    Written s (acceptedIn (eventsOf moves)) (writtenIn (eventsOf moves))
      (WriteFailedIn moves) := by
  induction h with
  | nil => exact @Written.receiving _ _ _ _ [] rfl rfl rfl (by simp)
  | concat _ made ih => simpa using written_of_hazard ih made

/-- What the server has read and what is left in its input is what has been written. -/
theorem readIn_append_input {name : String} {processId : Value} {capacity : Nat}
    {moves : List (Move Conversation Hazard Event)}
    (h : ToolingHost.History hazard (fresh name processId capacity) moves s) :
    readIn moves ++ s.link.input.content = writtenIn (eventsOf moves) := by
  induction h with
  | nil => rfl
  | @concat moves last next hazard_ events _ made ih =>
      have more : readIn (moves ++ [⟨last, hazard_, next, events⟩]) =
          readIn moves ++ readBy ⟨last, hazard_, next, events⟩ := by simp [readIn]
      rw [more, List.append_assoc, readBy_append_input made, ← List.append_assoc, ih]
      simp

/-- A writer that has ended stays so, and writes nothing. -/
theorem written_of_ended (ended : s.writer = .ended) {more : List (Move Conversation Hazard Event)}
    (h : ToolingHost.History hazard s more t) :
    t.writer = .ended ∧ writtenIn (eventsOf more) = [] := by
  induction h with
  | nil => exact ⟨ended, rfl⟩
  | @concat moves last next hazard_ events _ made ih =>
      obtain ⟨stays, nothing⟩ := ih
      cases hazard_ with
      | act action =>
          rcases (step_sound made).supplies_or with ⟨-, own⟩ | ⟨-, own⟩
          · cases own <;> simp_all
          · exact ⟨own.writer.trans stays, by simp [nothing, own.written]⟩
      | short | fail =>
          simp only [hazard, stays] at made
          cases made

/-- **The server gets the messages whole, once each, and in the order in which the queue accepted
them.** Whatever the caller, the reader and the server do, and wherever a write is short or fails:
what the server has read and has yet to read is what was written; that is the written forms of some
messages, which come first among those accepted before the first order to stop, and a part of the
next one, but only while that is being written or if a write of it failed; once the writer has ended
without a failure, they are all these messages; and a writer that has ended, which it has after a
failed write, never writes again. -/
theorem messages_written_in_order {name : String} {processId : Value} {capacity : Nat}
    {moves : List (Move Conversation Hazard Event)}
    (h : ToolingHost.History hazard (fresh name processId capacity) moves s) :
    readIn moves ++ s.link.input.content = writtenIn (eventsOf moves) ∧
      (∃ sent part,
        writtenIn (eventsOf moves) = Frame.encodeAll sent ++ part ∧
        sent <+: messagesBeforeStop (acceptedIn (eventsOf moves)) ∧
        (part ≠ [] → ∃ next,
          sent ++ [next] <+: messagesBeforeStop (acceptedIn (eventsOf moves)) ∧
          ((∃ rest, s.writer = .writing rest ∧ part ++ rest = Frame.encode next) ∨
            (WriteFailedIn moves ∧ part <+: Frame.encode next))) ∧
        (s.writer = .ended → ¬WriteFailedIn moves →
          part = [] ∧ sent = messagesBeforeStop (acceptedIn (eventsOf moves)))) ∧
      (WriteFailedIn moves → s.writer = .ended) ∧
      (s.writer = .ended → ∀ more t, ToolingHost.History hazard s more t →
        writtenIn (eventsOf more) = []) := by
  have written := written_of_history h
  exact ⟨readIn_append_input h, written.messages, written.ended,
    fun ended more t later => (written_of_ended ended later).2⟩

/-- What a server sends: a request of its own, and its answer to the first request. -/
def serverMessages : List Value :=
  [.object [("id", .int 7), ("method", .string "client/registerCapability")],
    .object [("id", .int 1), ("result", .null)]]

/-- A client is closed. Its request is written whole, and so is the reply to a request of the
server; the write of the message that follows the answer fails in the middle of the header. -/
def brokenWrite : List Hazard :=
  [.act (.call .close), .act (.party .caller), .act (.party .caller), .act (.party .writer),
    .act (.party .writer), .act (.party .writer),
    .act (.server (.write (Frame.encodeAll serverMessages))), .act (.party .reader),
    .act (.party .reader), .act (.party .reader), .act (.party .writer), .act (.party .writer),
    .act (.party .writer), .act (.party .reader), .act (.party .caller), .act (.party .caller),
    .act (.party .writer), .short 10, .fail]

/-- The moves of this run. -/
def brokenMoves : List (Move Conversation Hazard Event) :=
  movesOf hazard (fresh "server" .null 4096) brokenWrite

/-- After a write that failed, the server has the messages of the caller and of the reader that were
written before, and a part of the next one, and will get nothing more. -/
theorem messages_written_in_order_broken :
    WriteFailedIn brokenMoves ∧
      writtenIn (eventsOf brokenMoves) =
        Frame.encodeAll [Purpose.closing.request 1 none, Rpc.resultResponse (.int 7) .null] ++
          (Frame.encode (Rpc.Notification.toValue Purpose.closing.notification)).take 10 ∧
      ∀ more t, ToolingHost.History hazard (endOf hazard (fresh "server" .null 4096) brokenWrite)
        more t → writtenIn (eventsOf more) = [] := by
  have made : brokenMoves.any (fun move => move.action matches .fail) = true := by decide +kernel
  obtain ⟨move, hm, is⟩ := List.any_eq_true.mp made
  have failed : WriteFailedIn brokenMoves := by
    refine ⟨move, hm, ?_⟩
    split at is
    next same =>
      rw [same]
      exact .refused
    next => cases is
  obtain ⟨-, -, ended, silent⟩ :=
    messages_written_in_order (.of_actions hazard (fresh "server" .null 4096) brokenWrite)
  exact ⟨failed, by decide +kernel, silent (ended failed)⟩

end Conversation

end ToolingHost.Client
