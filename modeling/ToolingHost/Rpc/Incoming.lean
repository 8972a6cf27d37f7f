import ToolingHost.Rpc.Message

/-! # The shape of an incoming message

A received value is a response, a request of the other side, a notification, or none of these. The
shape depends on which of the members `id`, `method`, `result` and `error` are there. -/

namespace ToolingHost.Rpc

open ToolingHost.Json

/-- A received message by its shape. -/
inductive Incoming where
  /-- An answer to the request with this number; the body is the whole message. -/
  | response (id : Nat) (body : Value)
  /-- A request of the other side. -/
  | request (id : Value) (method : String) (params : Option Value)
  /-- A notification of the other side. -/
  | notification (method : String) (params : Option Value)

/-- The shape of a received value. A text as method makes it a request or a notification, whatever
else it holds; without one it is a response if it has a result or an error and a natural number as
its id. -/
def classify (frame : Value) : Option Incoming :=
  let method := (frame.get? "method").bind Value.string?
  let isResponse := (frame.get? "result").isSome || (frame.get? "error").isSome
  match frame.get? "id", method with
  -- an id that is `null` is an id
  | some id, some method => some (.request id method (frame.get? "params"))
  | none, some method => some (.notification method (frame.get? "params"))
  | some id, none => if isResponse then id.nat?.map fun n => .response n frame else none
  | none, none => none

/-- A request has an id, whatever value that is, and a text as method. -/
theorem classify_eq_request_iff {frame id : Value} {method : String} {params : Option Value} :
    classify frame = some (.request id method params) ↔
      frame.get? "id" = some id ∧ frame.get? "method" = some (.string method) ∧
        frame.get? "params" = params := by
  have text (v : Value) : v.string? = some method ↔ v = .string method := by
    cases v <;> simp [Value.string?]
  unfold classify
  dsimp only
  constructor
  · intro h
    split at h
    · rename_i hid hm
      obtain ⟨v, hv, hs⟩ := Option.bind_eq_some_iff.mp hm
      simp only [Option.some.injEq, Incoming.request.injEq] at h
      obtain ⟨rfl, rfl, rfl⟩ := h
      obtain rfl := (text v).mp hs
      exact ⟨hid, hv, rfl⟩
    · simp at h
    · split at h
      · simp at h
      · cases h
    · cases h
  · rintro ⟨hid, hm, rfl⟩
    simp [hid, hm, Value.string?]

/-- The body of a response is the whole message. -/
theorem body_of_classify {frame body : Value} {id : Nat}
    (h : classify frame = some (.response id body)) : body = frame := by
  unfold classify at h
  dsimp only at h
  split at h
  · simp at h
  · simp at h
  · split at h
    · simp only [Option.map_eq_some_iff, Incoming.response.injEq] at h
      obtain ⟨_, _, _, rfl⟩ := h
      rfl
    · simp at h
  · simp at h

/-- The kind of a message that a server wants shown or logged. -/
inductive MessageKind where
  /-- An error. -/
  | error
  /-- A warning. -/
  | warning
  /-- Information. -/
  | info
  /-- Anything else. -/
  | log
  deriving DecidableEq, Repr

/-- The kind with a number; every number that is not assigned means the last kind. -/
def MessageKind.ofCode : Nat → MessageKind
  | 1 => .error
  | 2 => .warning
  | 3 => .info
  | _ => .log

/-- The parameters of a message that a server wants shown or logged. -/
structure MessageParams where
  /-- The kind of the message. -/
  kind : MessageKind
  /-- The text. -/
  message : String
  deriving DecidableEq, Repr

/-- Builds the parameters from a kind and a text, if the kind is an integer below 256. -/
def MessageParams.of? (kind message : Option Value) : Option MessageParams := do
  let n ← (← kind).nat?
  let text ← (← message).string?
  if n < 256 then some ⟨.ofCode n, text⟩ else none

/-- Reads parameters given as an object with the members `type` and `message`, or as an array of
just these two. -/
def MessageParams.ofValue? : Value → Option MessageParams
  | .object members => of? (Members.get? members "type") (Members.get? members "message")
  | .array [kind, message] => of? (some kind) (some message)
  | _ => none

end ToolingHost.Rpc
