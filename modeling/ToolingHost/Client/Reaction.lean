import ToolingHost.Log.Record
import ToolingHost.Rpc.Incoming

/-! # Reactions to received messages

What a client does with one message of its server: hand an answer to the request that waits for it,
reply to a request, write something into the log, or nothing. Servers wait for the replies to their
requests, so every request gets one; the client has no settings of its own and supports no other
request. -/

namespace ToolingHost.Client

open ToolingHost.Json

/-- The part of the program that log records of the client come from. -/
def logTarget : String := "kide_lsp::client"

/-- A record of a client. -/
def record (level : Log.Level) (message : String) : Log.Record := ⟨level, logTarget, message, []⟩

/-- The requests that are answered with `null` and nothing else. -/
def acknowledged : List String :=
  ["client/registerCapability", "client/unregisterCapability", "window/workDoneProgress/create"]

/-- The number of settings that a request for settings asks for. -/
def requestedSettings (params : Option Value) : Nat :=
  (((params.bind fun p => p.get? "items").bind Value.items?).map List.length).getD 0

/-- The reply to a request of the server. -/
def reply (id : Value) (method : String) (params : Option Value) : Value :=
  if method = "workspace/configuration" then
    Rpc.resultResponse id (.array (List.replicate (requestedSettings params) .null))
  else if acknowledged.contains method then Rpc.resultResponse id .null
  else Rpc.errorResponse id Rpc.methodNotFound ("Method not found: " ++ method)

/-- Whether a request of the server is one that the client knows. -/
def isSupported (method : String) : Bool :=
  method == "workspace/configuration" || acknowledged.contains method

/-- What is written about a request of the server. -/
def requestRecords (name method : String) : List Log.Record :=
  if isSupported method then []
  else [record .debug (name ++ ": unsupported server request " ++ method)]

/-- The level at which a message of the server is written. -/
def levelOf : Rpc.MessageKind → Log.Level
  | .error => .error
  | .warning => .warn
  | .info => .info
  | .log => .debug

/-- What is written about a notification of the server: the message that it carries, if it is meant
for the log or the user. Of parameters that make no sense it is only said that they do not; the
decoder's own words on why, which end that line in a log, are left out. -/
def notificationRecords (name method : String) (params : Option Value) : List Log.Record :=
  if method = "window/logMessage" ∨ method = "window/showMessage" then
    match params with
    -- without parameters there is nothing to write, and nothing to complain about
    | none => []
    | some params =>
      match Rpc.MessageParams.ofValue? params with
      | some p => [⟨levelOf p.kind, logTarget, p.message, [("server", .shown name)]⟩]
      | none => [record .debug (name ++ ": bad " ++ method ++ " params")]
  else [record .trace (name ++ ": ignoring notification " ++ method)]

/-- What a message makes the client do, apart from writing into the log. -/
inductive Reaction where
  /-- Nothing. -/
  | none
  /-- Hand an answer to the request that waits for it. -/
  | deliver (id : Nat) (body : Value)
  /-- Send a reply. -/
  | reply (message : Value)

/-- What a received message makes the client do, and what is written into the log. -/
def react (name : String) (frame : Value) : Reaction × List Log.Record :=
  match Rpc.classify frame with
  | none => (.none, [record .trace (name ++ ": ignoring malformed JSON-RPC frame")])
  | some (.response id body) => (.deliver id body, [])
  | some (.request id method params) =>
    (.reply (reply id method params), requestRecords name method)
  | some (.notification method params) => (.none, notificationRecords name method params)

/-- What a message makes the client do depends on its shape alone. -/
theorem react_fst (name : String) (frame : Value) :
    (react name frame).1 =
      match Rpc.classify frame with
      | some (.response id body) => .deliver id body
      | some (.request id method params) => .reply (reply id method params)
      | _ => .none := by
  unfold react
  rcases Rpc.classify frame with _ | (_ | _ | _) <;> rfl

/-- Only answers are handed to requests. -/
theorem react_eq_deliver_iff {name : String} {frame body : Value} {id : Nat} :
    (react name frame).1 = .deliver id body ↔ Rpc.classify frame = some (.response id body) := by
  rw [react_fst]
  rcases Rpc.classify frame with _ | (_ | _ | _) <;> simp

/-- Only requests get a reply. -/
theorem react_notification (name : String) (frame : Value) (method : String)
    (params : Option Value) (h : Rpc.classify frame = some (.notification method params)) :
    (react name frame).1 = .none := by
  simp [react, h]

end ToolingHost.Client
