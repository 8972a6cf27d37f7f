import ToolingHost.FilePath
import ToolingHost.Json.Value

/-! # Messages of the client

What a client writes: requests, notifications and replies, and the parameters of the request that
opens a conversation, in which the workspace is named by a URI. -/

/-! ## JSON-RPC messages

The messages that a client writes: requests, notifications, and the two kinds of reply. -/

namespace ToolingHost.Rpc

open ToolingHost.Json

/-- The version that every message carries. -/
def version : Value := .string "2.0"

/-- The member for parameters; absent parameters have none, and null ones have one. -/
def paramsMember : Option Value → Members
  | none => []
  | some params => [("params", params)]

/-- A call that wants an answer. -/
structure Request where
  /-- The number that the answer will carry. -/
  id : Nat
  /-- What is called. -/
  method : String
  /-- The arguments. -/
  params : Option Value

/-- A call that wants no answer. -/
structure Notification where
  /-- What is called. -/
  method : String
  /-- The arguments. -/
  params : Option Value

/-- The members of a request, in the order of its written form. -/
def Request.members (r : Request) : Members :=
  [("jsonrpc", version), ("id", Value.int r.id), ("method", .string r.method)] ++
    paramsMember r.params

/-- The members of a notification, in the order of its written form. -/
def Notification.members (n : Notification) : Members :=
  [("jsonrpc", version), ("method", .string n.method)] ++ paramsMember n.params

/-- A request as a value. -/
def Request.toValue (r : Request) : Value := Value.sorted r.members

/-- A notification as a value. -/
def Notification.toValue (n : Notification) : Value := Value.sorted n.members

/-- The reply to a request that succeeded. -/
def resultResponse (id result : Value) : Value :=
  .object [("id", id), ("jsonrpc", version), ("result", result)]

/-- The reply to a request that failed. -/
def errorResponse (id : Value) (code : Int) (message : String) : Value :=
  .object [
    ("error", .object [("code", Value.int code), ("message", .string message)]),
    ("id", id),
    ("jsonrpc", version)]

/-- The code for a method that the receiver does not know. -/
def methodNotFound : Int := -32601

/-- The reply to a request that succeeded carries its id and the result, and no error. -/
theorem get?_resultResponse (id result : Value) :
    (resultResponse id result).get? "id" = some id ∧
      (resultResponse id result).get? "result" = some result ∧
      (resultResponse id result).get? "error" = none := by
  refine ⟨?_, ?_, ?_⟩ <;> simp [resultResponse, Members.get?, List.lookup_cons, List.lookup_nil]

/-- The reply to a request that failed carries its id and an error with the code, and no result. -/
theorem get?_errorResponse (id : Value) (code : Int) (message : String) :
    (errorResponse id code message).get? "id" = some id ∧
      (errorResponse id code message).get? "result" = none ∧
      ∃ error, (errorResponse id code message).get? "error" = some error ∧
        error.get? "code" = some (Value.int code) := by
  refine ⟨?_, ?_, .object [("code", Value.int code), ("message", .string message)], ?_, ?_⟩ <;>
    simp [errorResponse, Members.get?, List.lookup_cons, List.lookup_nil]

end ToolingHost.Rpc

/-! ## File URIs

An absolute path becomes a `file` URI with one segment for each component. In a segment the bytes
that have a meaning in URIs, or that are not printable ASCII, are written as `%HH`. -/

namespace ToolingHost.FileUri

/-- Whether a byte stands for itself in a segment. -/
def isPlain (b : UInt8) : Bool :=
  0x20 < b && b < 0x7F &&
    !(Bytes.ofString "\"#<>?\x60\x7b\x7d%\\/").contains b

/-- A hexadecimal digit in upper case. -/
def hexDigit (n : Nat) : Char := (Nat.digitChar n).toUpper

/-- A byte in a segment. -/
def encodeByte (b : UInt8) : List Char :=
  if isPlain b then [Char.ofNat b.toNat]
  else ['%', hexDigit (b.toNat / 16), hexDigit (b.toNat % 16)]

/-- A component as a segment, with the slash before it. -/
def segment (component : Bytes) : List Char := '/' :: component.flatMap encodeByte

/-- The URI of an absolute path; a relative path has none. -/
def ofPath? (p : FilePath) : Option String :=
  if p.isAbsolute then
    let segments := p.components.flatMap segment
    some ("file://" ++ (if segments.isEmpty then "/" else String.ofList segments))
  else none

/-- The text of the failure for a path that has no URI. -/
def failure (p : FilePath) : String := "cannot convert path to file URI: " ++ p.display

/-- Only relative paths have no URI. -/
theorem ofPath?_eq_none_iff (p : FilePath) : ofPath? p = none ↔ p.isAbsolute = false := by
  unfold ofPath?
  split <;> simp_all

end ToolingHost.FileUri

/-! ## The opening of a conversation

The parameters with which the client opens a conversation: who it is, the workspace, what it can do,
and where the server may keep files. -/

namespace ToolingHost.Rpc

open ToolingHost.Json

/-- The name under which the client presents itself. -/
def clientName : String := "kide"

/-- The version under which the client presents itself. -/
def clientVersion : String := "0.0.0"

/-- What the client can do. -/
def capabilities : Value :=
  .object [
    ("textDocument", .object [
      ("publishDiagnostics", .object [("relatedInformation", .bool false)]),
      ("synchronization", .object [
        ("didSave", .bool true), ("dynamicRegistration", .bool false)])]),
    ("window", .object [("showMessage", .object [])]),
    ("workspace", .object [("configuration", .bool true), ("workspaceFolders", .bool true)])]

/-- The parameters of the opening request. `processId` identifies the client's own process. -/
def handshakeParams (processId : Value) (rootUri : String) (storage : FilePath) : Value :=
  .object [
    ("capabilities", capabilities),
    ("clientInfo", .object [
      ("name", .string clientName), ("version", .string clientVersion)]),
    ("initializationOptions", .object [("storagePath", .string storage.display)]),
    ("processId", processId),
    ("rootUri", .string rootUri),
    ("workspaceFolders", .array [
      .object [("name", .string "workspace"), ("uri", .string rootUri)]])]

end ToolingHost.Rpc
