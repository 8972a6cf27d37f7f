import ToolingHost.Rpc.Message

/-! # Calls on a client

A client is asked to open a conversation with its server, or to close it. Each call sends a request,
waits for the answer for a limited time, and then sends a notification. -/

namespace ToolingHost.Client

open ToolingHost.Json

/-- A call on a client. -/
inductive Call where
  /-- Open the conversation about a workspace, with a directory for the server's files. -/
  | «open» (workspace storage : FilePath)
  /-- Close the conversation and wait until the server has ended. -/
  | close
  deriving DecidableEq, Repr

/-- What a request of the client is for. -/
inductive Purpose where
  /-- Opening the conversation. -/
  | opening
  /-- Closing the conversation. -/
  | closing
  deriving DecidableEq, Repr

namespace Purpose

/-- The method of the request. -/
def method : Purpose → String
  | .opening => "initialize"
  | .closing => "shutdown"

/-- How many seconds the answer may take. The server looks at all libraries of a project before it
answers the first request, which takes long. -/
def patience : Purpose → Nat
  | .opening => 60
  | .closing => 2

/-- The notification that follows the answer. -/
def notification : Purpose → Rpc.Notification
  | .opening => ⟨"initialized", some (.object [])⟩
  | .closing => ⟨"exit", none⟩

end Purpose

/-- Why a call failed. -/
inductive Failure where
  /-- The workspace has no URI. -/
  | workspace (path : FilePath)
  /-- The server closed its output before it answered. -/
  | serverExited (method : String)
  /-- Nothing can be sent to the server any more. -/
  | queueClosed
  /-- The answer took too long. -/
  | timedOut (method : String) (seconds : Nat)
  /-- The server answered with an error. -/
  | refused (reason : String)
  deriving DecidableEq, Repr

/-- The text of a failure with its causes, outermost first. -/
def Failure.chain (name : String) : Failure → List String
  | .workspace path => ["converting workspace root to URI", FileUri.failure path]
  | .serverExited method => [name ++ ": server exited before answering " ++ method]
  | .queueClosed => [name ++ ": writer channel closed"]
  | .timedOut method seconds =>
    [name ++ ": " ++ method ++ " timed out after " ++ toString seconds ++ "s"]
  | .refused reason => [name ++ " initialize failed: " ++ reason]

/-- The reason that an answer gives for an error, if the answer is one. -/
def refusal? (body : Value) : Option String :=
  (body.get? "error").map fun error =>
    ((error.get? "message").bind Value.string?).getD "unknown error"

/-- What a call returns. -/
inductive Outcome where
  /-- The conversation is open. -/
  | opened
  /-- The conversation could not be opened. -/
  | failed (failure : Failure)
  /-- The conversation is closed and the server has ended. -/
  | closed
  deriving DecidableEq, Repr

/-- Why the call failed, if it did. -/
def Outcome.failure? : Outcome → Option Failure
  | .failed failure => some failure
  | _ => none

end ToolingHost.Client
