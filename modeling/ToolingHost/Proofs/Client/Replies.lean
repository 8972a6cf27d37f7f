import ToolingHost.Proofs.Client.Step

/-! # Replies to the server

Servers wait for the replies to their requests. `ServerRequest.ofFrame?` says which messages are
requests, `IsAnsweredBy` what the reply to one has to be. However the parties are interleaved, and
whatever the server sends, the reader puts exactly one reply for each request into the queue, in the
order in which the requests came, as long as the queue is open (`requests_replied_in_order`). -/

namespace ToolingHost.Client

open ToolingHost.Json

/-- A request of the server. -/
structure ServerRequest where
  /-- What the server calls the request. -/
  id : Value
  /-- What is asked for. -/
  method : String
  /-- The arguments. -/
  params : Option Value

namespace ServerRequest

/-- The request that a message is: it has an id, whatever value that is, and a text as method. -/
def ofFrame? (frame : Value) : Option ServerRequest :=
  match frame.get? "id", frame.get? "method" with
  | some id, some (.string method) => some ⟨id, method, frame.get? "params"⟩
  | _, _ => none

/-- The reply that the client sends. -/
def answer (request : ServerRequest) : Value := reply request.id request.method request.params

/-- The settings that a request asks for, if its arguments list any. -/
def items? (request : ServerRequest) : Option (List Value) :=
  match request.params.bind fun params => params.get? "items" with
  | some (.array items) => some items
  | _ => none

/-- What a reply to a request has to be. -/
structure IsAnsweredBy (request : ServerRequest) (message : Value) : Prop where
  /-- It carries what the server calls the request. -/
  id : message.get? "id" = some request.id
  /-- A request for settings gets a `null` for each, and none if it lists none. -/
  settings : request.method = "workspace/configuration" →
    message.get? "error" = none ∧
      message.get? "result" =
        some (.array (List.replicate ((request.items?.map List.length).getD 0) .null))
  /-- Three requests are acknowledged. -/
  acknowledged : request.method ∈ ["client/registerCapability", "client/unregisterCapability",
      "window/workDoneProgress/create"] →
    message.get? "error" = none ∧ message.get? "result" = some .null
  /-- Every other request is refused. -/
  refused : request.method ∉ ["workspace/configuration", "client/registerCapability",
      "client/unregisterCapability", "window/workDoneProgress/create"] →
    message.get? "result" = none ∧
      ∃ error, message.get? "error" = some error ∧ error.get? "code" = some (.int (-32601))

/-- The number of settings is that of the items. -/
theorem requestedSettings_eq (request : ServerRequest) :
    requestedSettings request.params = (request.items?.map List.length).getD 0 := by
  unfold requestedSettings items?
  rcases request.params.bind (fun params => params.get? "items") with
    _ | (_ | _ | _ | _ | _ | _) <;> rfl

/-- **Every request gets the reply that it has to get.** -/
theorem isAnsweredBy_answer (request : ServerRequest) : request.IsAnsweredBy request.answer := by
  unfold answer reply
  by_cases settings : request.method = "workspace/configuration"
  · rw [if_pos settings, requestedSettings_eq]
    obtain ⟨id, result, error⟩ := Rpc.get?_resultResponse request.id
      (.array (List.replicate ((request.items?.map List.length).getD 0) .null))
    refine ⟨id, fun _ => ⟨error, result⟩, ?_, ?_⟩ <;> simp [settings]
  · rw [if_neg settings]
    by_cases known : acknowledged.contains request.method = true
    · rw [if_pos known]
      obtain ⟨id, result, error⟩ := Rpc.get?_resultResponse request.id .null
      refine ⟨id, fun h => absurd h settings, fun _ => ⟨error, result⟩, fun unknown => ?_⟩
      rw [List.contains_iff_mem] at known
      exact absurd (List.mem_cons_of_mem _ known) unknown
    · rw [if_neg known]
      obtain ⟨id, result, error⟩ := Rpc.get?_errorResponse request.id Rpc.methodNotFound
        ("Method not found: " ++ request.method)
      refine ⟨id, fun h => absurd h settings, fun h => ?_, fun _ => ⟨result, error⟩⟩
      rw [List.contains_iff_mem] at known
      exact absurd h known

/-- A message is a request exactly when it has the shape of one. -/
theorem ofFrame?_eq_some_iff {frame : Value} {request : ServerRequest} :
    ofFrame? frame = some request ↔
      Rpc.classify frame = some (.request request.id request.method request.params) := by
  rw [Rpc.classify_eq_request_iff]
  unfold ofFrame?
  rcases request with ⟨id, method, params⟩
  constructor
  · intro h
    split at h
    · rename_i hid hm
      cases h
      exact ⟨hid, hm, rfl⟩
    · cases h
  · rintro ⟨hid, hm, rfl⟩
    rw [hid, hm]

/-- The requests are the messages that the client replies to. -/
theorem react_eq_reply_iff {name : String} {frame message : Value} :
    (react name frame).1 = .reply message ↔ (ofFrame? frame).map answer = some message := by
  rw [react_fst, Option.map_eq_some_iff]
  constructor
  · intro h
    split at h
    · cases h
    · rename_i id method params shape
      cases h
      exact ⟨⟨id, method, params⟩, ofFrame?_eq_some_iff.mpr shape, rfl⟩
    · cases h
  · rintro ⟨request, shape, rfl⟩
    rw [ofFrame?_eq_some_iff.mp shape]
    rfl

/-- What is no request gets no reply. -/
theorem ofFrame?_eq_none {name : String} {frame : Value} {reaction : Reaction}
    (h : (react name frame).1 = reaction) (other : ∀ message, reaction ≠ .reply message) :
    ofFrame? frame = none := by
  cases hf : ofFrame? frame with
  | none => rfl
  | some request =>
      have reply : (react name frame).1 = .reply request.answer :=
        react_eq_reply_iff.mpr (by rw [hf]; rfl)
      exact absurd (h.symm.trans reply) (other request.answer)

end ServerRequest

/-- The requests among some messages, in order. -/
def requestsIn (frames : List Value) : List ServerRequest :=
  frames.filterMap ServerRequest.ofFrame?

/-- The orders to send the replies to the requests among some messages, in order. -/
def repliesTo (frames : List Value) : List Order :=
  (requestsIn frames).map fun request => .send request.answer

/-- There is no reply to no message. -/
@[simp] theorem repliesTo_nil : repliesTo [] = [] := rfl

/-- Replies come in the order of the messages. -/
@[simp] theorem repliesTo_append (first second : List Value) :
    repliesTo (first ++ second) = repliesTo first ++ repliesTo second := by
  simp [repliesTo, requestsIn]

/-- A step of a conversation, or a message that is handed to the reader. -/
inductive Feeding where
  /-- A message is handed to the reader as if it had read it. -/
  | hand (frame : Value)
  /-- A step of the conversation. -/
  | act (action : Action)

namespace Conversation

/-- A step of a conversation whose reader may be handed any message while it is reading, and not
only those that the server can write. -/
def feed (s : Conversation) : Feeding → StepResult
  | .hand frame =>
    match s.reader with
    | .reading buffer => some (s.dispatch frame buffer)
    | _ => none
  | .act action => s.step action

/-- The messages that a move makes the reader take: the one handed to it, or one that it has read.
-/
def takenBy (move : Move Conversation Feeding Event) : List Value :=
  match move.action with
  | .hand frame => [frame]
  | .act _ => dispatchedIn move.events

/-- The messages that the reader takes in some moves, in the order in which they come. -/
def takenIn (moves : List (Move Conversation Feeding Event)) : List Value := moves.flatMap takenBy

/-- The reply that waits for room in the queue, if one does. -/
def awaiting (s : Conversation) : List Order :=
  match s.reader with
  | .replying message _ => [.send message]
  | _ => []

variable {s t : Conversation} {events : List Event}

/-- Nothing waits for room while the reader is reading. -/
theorem awaiting_of_reading {buffer : Bytes} (h : s.reader = .reading buffer) :
    s.awaiting = [] := by
  rw [awaiting, h]

/-- A reader that does not move waits for the same. -/
theorem awaiting_congr (same : t.reader = s.reader) : t.awaiting = s.awaiting := by
  rw [awaiting, awaiting, same]

end Conversation

section Steps

variable {s t : Conversation} {action : Action} {events : List Event}

/-- A message that is dispatched leaves the reader with its reply, if it is a request. -/
theorem Dispatched.awaiting {frame : Value} {buffer : Bytes}
    (own : Dispatched s frame buffer t) : t.awaiting = repliesTo [frame] := by
  cases own with
  | ignored reaction =>
      have none := ServerRequest.ofFrame?_eq_none reaction (by simp)
      simp [Conversation.awaiting, repliesTo, requestsIn, none]
  | delivered reaction | lost reaction =>
      have none := ServerRequest.ofFrame?_eq_none reaction (by simp)
      simp [Conversation.awaiting, repliesTo, requestsIn, none]
  | asked reaction =>
      obtain ⟨request, shape, rfl⟩ := Option.map_eq_some_iff.mp
        (ServerRequest.react_eq_reply_iff.mp reaction)
      simp [Conversation.awaiting, repliesTo, requestsIn, shape]

/-- **One step replies to what it dispatches.** While the queue is open, the replies that a step
puts into it, and the one that then waits for room, are the one that waited before and those to the
messages that the step takes. -/
theorem Step.replies (made : Step s action t events) (opened : t.queueOpen = true) :
    ordersOf .reader events ++ t.awaiting = s.awaiting ++ repliesTo (dispatchedIn events) := by
  have before := made.queueOpen opened
  cases made with
  | unlocatable | opening | closing | abandoned | expired | killed | server =>
      simp [Event.order?, Event.dispatched?, Conversation.awaiting]
  | caller own =>
      rw [own.ordersOf_reader, own.dispatchedIn_eq, Conversation.awaiting_congr own.reader_eq]
      simp
  | writer own =>
      rw [own.ordersOf_eq, own.dispatchedIn_eq, Conversation.awaiting_congr own.reader_eq]
      simp
  | reader own =>
      cases own with
      | cleared at_ | closed at_ | fetched at_ | replied at_ =>
          simp [Conversation.awaiting, at_, Event.order?, Event.dispatched?]
      -- a reply is dropped only when the queue is closed, and then it was closed before
      | unreplied _ shut =>
          rw [before] at shut
          cases shut
      | dispatched at_ _ own =>
          rw [Conversation.awaiting_of_reading at_, own.awaiting]
          simp

end Steps

namespace Conversation

variable {s t : Conversation} {moves : List (Move Conversation Feeding Event)}

/-- A message can be handed to the reader while it is reading, and is then dispatched. -/
theorem feed_hand {frame : Value} {events : List Event}
    (made : s.feed (.hand frame) = some (t, events)) :
    ∃ buffer, s.reader = .reading buffer ∧ Dispatched s frame buffer t ∧
      events = dispatchEvents s.name frame := by
  unfold feed at made
  cases hr : s.reader with
  | reading buffer =>
      simp only [hr, Option.some.injEq] at made
      have own := dispatch_sound s frame buffer
      have logged := dispatch_snd s frame buffer
      rw [made] at own logged
      exact ⟨buffer, rfl, own, logged⟩
  | replying | clearing | ended => simp [hr] at made

/-- A queue that is open after a step was open before it, also where messages are handed to the
reader. -/
theorem queueOpen_of_feed {feeding : Feeding} {events : List Event}
    (made : s.feed feeding = some (t, events)) (opened : t.queueOpen = true) :
    s.queueOpen = true := by
  cases feeding with
  | act action => exact (step_sound made).queueOpen opened
  | hand frame =>
      obtain ⟨buffer, -, own, -⟩ := feed_hand made
      unfold queueOpen at opened ⊢
      exact own.writer_eq ▸ opened

/-- A step of a conversation that is fed replies to what it takes. -/
theorem replies_of_feed {feeding : Feeding} {events : List Event}
    (made : s.feed feeding = some (t, events)) (opened : t.queueOpen = true) :
    ordersOf .reader events ++ t.awaiting =
      s.awaiting ++ repliesTo (takenBy ⟨s, feeding, t, events⟩) := by
  cases feeding with
  | act action => exact (step_sound made).replies opened
  | hand frame =>
      obtain ⟨buffer, reading, own, rfl⟩ := feed_hand made
      rw [own.awaiting, awaiting_of_reading reading]
      simp [takenBy]

/-- What was put into the queue and what waits for room are the replies to what was taken. -/
theorem replies_of_history {start : Conversation} (h : ToolingHost.History feed start moves t)
    (opened : t.queueOpen = true) :
    ordersOf .reader (eventsOf moves) ++ t.awaiting =
      start.awaiting ++ repliesTo (takenIn moves) := by
  induction h with
  | nil => simp [takenIn]
  | @concat moves last next feeding events _ made ih =>
      have earlier := ih (queueOpen_of_feed made opened)
      have later := replies_of_feed made opened
      have taken : takenIn (moves ++ [⟨last, feeding, next, events⟩]) =
          takenIn moves ++ takenBy ⟨last, feeding, next, events⟩ := by simp [takenIn]
      rw [taken, repliesTo_append, ← List.append_assoc, ← earlier, List.append_assoc, ← later]
      simp

/-- A request that is dispatched leaves the list of waiting requests and their answers alone. -/
theorem dispatch_of_request {frame : Value} (request : (ServerRequest.ofFrame? frame).isSome = true)
    (s : Conversation) (rest : Bytes) :
    (s.dispatch frame rest).1.waiters = s.waiters ∧ (s.dispatch frame rest).1.closed = s.closed ∧
      (s.dispatch frame rest).1.delivered = s.delivered := by
  obtain ⟨request, shape⟩ := Option.isSome_iff_exists.mp request
  have reaction : (react s.name frame).1 = .reply request.answer :=
    ServerRequest.react_eq_reply_iff.mpr (by rw [shape]; rfl)
  have own := dispatch_sound s frame rest
  generalize (s.dispatch frame rest).1 = t at own ⊢
  cases own with
  | asked => exact ⟨rfl, rfl, rfl⟩
  | ignored other | delivered other | lost other =>
      rw [reaction] at other
      cases other

/-- A reply that waits for room is put into the queue in the next step of the reader once there is
room. -/
theorem step_of_awaiting {message : Value} {rest : Bytes}
    (waiting : s.reader = .replying message rest) (opened : s.queueOpen = true)
    (room : s.hasRoom = true) :
    ∃ t, s.step (.party .reader) = some (t, [.queued .reader (.send message)]) ∧
      t.reader = .reading rest := by
  refine ⟨{ s with reader := .reading rest, queue := s.queue ++ [.send message] }, ?_, rfl⟩
  simp [step, stepParty, stepReader, waiting, opened, room, enqueue]

/-- **Every request of the server gets one reply, in the order in which the requests come.**
Whatever messages the reader is handed or reads, and whatever the other parties and the server do
meanwhile, as long as the queue is open: the orders of the reader are exactly the replies to the
requests among these messages, in order, but for the last one while it waits for room, which it does
not do once there is some. Each reply is what a reply to the request has to be, and dispatching a
request leaves the list of waiting requests alone. -/
theorem requests_replied_in_order {start t : Conversation} {buffer : Bytes}
    {moves : List (Move Conversation Feeding Event)} (reading : start.reader = .reading buffer)
    (h : ToolingHost.History feed start moves t) (opened : t.queueOpen = true) :
    ordersOf .reader (eventsOf moves) ++ t.awaiting =
        ((takenIn moves).filterMap ServerRequest.ofFrame?).map
          (fun request => .send request.answer) ∧
      (∀ request : ServerRequest, request.IsAnsweredBy request.answer) ∧
      (∀ message rest, t.reader = .replying message rest → t.hasRoom = true →
        ∃ u, t.step (.party .reader) = some (u, [.queued .reader (.send message)]) ∧
          u.reader = .reading rest) ∧
      (∀ (s : Conversation) (frame : Value) (rest : Bytes),
        (ServerRequest.ofFrame? frame).isSome = true →
          (s.dispatch frame rest).1.waiters = s.waiters ∧
            (s.dispatch frame rest).1.closed = s.closed ∧
            (s.dispatch frame rest).1.delivered = s.delivered) := by
  refine ⟨?_, ServerRequest.isAnsweredBy_answer, fun message rest waiting room => ?_,
    fun s frame rest request => dispatch_of_request request s rest⟩
  · rw [replies_of_history h opened, awaiting_of_reading reading]
    rfl
  · exact step_of_awaiting waiting opened room

/-- A request for two settings that has a result too, a notification, and a request that no client
knows, whose id is `null`: the reader is handed them, and has time to put its replies into the
queue. -/
def threeMessages : List Feeding :=
  [.hand (.object [("id", .string "cfg"), ("method", .string "workspace/configuration"),
      ("params", .object [("items", .array [.null, .null])]), ("result", .null)]),
    .act (.party .reader),
    .hand (.object [("method", .string "window/logMessage")]),
    .hand (.object [("id", .null), ("method", .string "workspace/applyEdit")]),
    .act (.party .reader)]

/-- The reader replies to the first and the last of the three messages. -/
theorem requests_replied_in_order_three :
    ordersOf .reader (eventsOf (movesOf feed (fresh "server" .null 4096) threeMessages)) =
      [.send (Rpc.resultResponse (.string "cfg") (.array [.null, .null])),
        .send (Rpc.errorResponse .null (-32601) "Method not found: workspace/applyEdit")] := by
  have replied := (requests_replied_in_order rfl
    (.of_actions feed (fresh "server" .null 4096) threeMessages) rfl).1
  have idle : (endOf feed (fresh "server" .null 4096) threeMessages).awaiting = [] := rfl
  rw [idle, List.append_nil] at replied
  rw [replied]
  rfl

end Conversation

end ToolingHost.Client
