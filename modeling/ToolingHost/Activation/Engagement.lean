import ToolingHost.Client.Conversation
import ToolingHost.Executable.Locate
import ToolingHost.Context

/-! # The language server's activator and its client

The activator asks the client of a server that it has started to open the conversation. If that
succeeds, the client becomes a subscription of the context, and closes the conversation when the
context releases its subscriptions; if it fails, the client is given up.

`Engagement.step` makes one step of the activator, of one of the client's parties or of the server,
lets a time limit expire, or does something else with the subscriptions of the context. What the
parties and the server do is a step of the conversation, at any time and in any order. -/

namespace ToolingHost.Activation

namespace Engagement

/-- How far things have come with the client. -/
inductive Stage where
  /-- The server has been started. -/
  | started
  /-- The client opens the conversation. -/
  | «opening»
  /-- The call has returned; why the conversation could not be opened, if it could not. -/
  | returned (failure : Option Client.Failure)
  /-- The client is a subscription with a number. -/
  | subscribed (number : Nat)
  /-- The client was disposed of and closes the conversation. -/
  | disposed
  /-- The client was given up. -/
  | dropped

/-- A step. -/
inductive Action where
  /-- The activator makes its next step. -/
  | activator
  /-- A party of the client makes its next step. -/
  | party (party : Client.Party)
  /-- The time limit of the caller expires. -/
  | expire
  /-- The server makes a move. -/
  | server (move : Client.ServerMove)
  /-- Someone else adds a subscription to the context. -/
  | subscribe (subscription : Subscription)
  /-- The context releases its subscriptions. -/
  | release

/-- Something that happened in a step. -/
inductive Event where
  /-- Something happened in the conversation. -/
  | client (event : Client.Event)
  /-- The client was added to the subscriptions of the context, with a number. -/
  | subscribed (number : Nat)

/-- The stage after some events: the activator goes on once its call has returned. -/
def Stage.after (events : List Client.Event) : Stage → Stage
  | .opening =>
    match Client.returned? events with
    | some outcome => .returned outcome.failure?
    | none => .opening
  | stage => stage

end Engagement

/-- The activator's dealings with one client. -/
structure Engagement where
  /-- The workspace that the conversation is about. -/
  workspace : FilePath
  /-- The directory for the server's files. -/
  storage : FilePath
  /-- The client and its link to the server. -/
  conversation : Client.Conversation
  /-- The subscriptions of the context. -/
  subscriptions : Subscriptions
  /-- How far things have come. -/
  stage : Engagement.Stage

namespace Engagement

/-- An engagement whose server has just been started, in a context with some subscriptions. -/
def fresh (processId : Json.Value) (capacity : Nat) (workspace storage : FilePath)
    (subscriptions : Subscriptions) : Engagement where
  workspace := workspace
  storage := storage
  conversation := .fresh Executable.languageServer.displayName processId capacity
  subscriptions := subscriptions
  stage := .started

/-- Makes a step of the conversation, which leads to a stage. -/
def play (e : Engagement) (action : Client.Action) (stage : Stage) :
    Option (Engagement × List Event) :=
  (e.conversation.step action).map fun (conversation, events) =>
    ({ e with conversation, stage := stage.after events }, events.map .client)

/-- The next step of the activator. -/
def stepActivator (e : Engagement) : Option (Engagement × List Event) :=
  match e.stage with
  | .started => e.play (.call (.open e.workspace e.storage)) .opening
  | .returned none =>
    let number := e.subscriptions.next
    let subscriptions := e.subscriptions.push (.plain Executable.languageServer.displayName)
    some ({ e with subscriptions, stage := .subscribed number }, [.subscribed number])
  -- a client that did not open the conversation is not asked to close it
  | .returned (some _) => e.play .abandon .dropped
  | _ => none

/-- Releases the subscriptions of the context. The client closes the conversation when it is
disposed of, and is given up if an earlier subscription breaks down. -/
def release (e : Engagement) : Option (Engagement × List Event) :=
  let (subscriptions, disposed, _) := e.subscriptions.release
  let next := { e with subscriptions }
  match e.stage with
  | .subscribed number =>
    if disposed.any fun d => d.subscription.1 == number then next.play (.call .close) .disposed
    else next.play .abandon .dropped
  | _ => some (next, [])

/-- One step. -/
def step (e : Engagement) : Action → Option (Engagement × List Event)
  | .activator => e.stepActivator
  | .party party => e.play (.party party) e.stage
  | .expire => e.play .expire e.stage
  | .server move => e.play (.server move) e.stage
  | .subscribe subscription =>
    some ({ e with subscriptions := e.subscriptions.push subscription }, [])
  | .release => e.release

end Engagement

end ToolingHost.Activation
