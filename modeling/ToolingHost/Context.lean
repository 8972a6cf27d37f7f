import ToolingHost.Host.Call
import ToolingHost.Log.Record
import ToolingHost.Text.Shown

/-! # The context of a run

Every part of the program works with a context, which holds what has been started and must be
released in the end. -/

/-! ## Subscriptions

What has been started and must be released in the end is kept as a list of subscriptions. Releasing
them first empties the list and then disposes of them one by one, newest first. A subscription may
add others while it is disposed of, which stay for the next time, and it may break down, which ends
the call and leaves the older ones undisposed. Every subscription gets a number when it is added. -/

namespace ToolingHost

/-- Something to dispose of: its name, the subscriptions that it adds meanwhile, and whether it then
breaks down. -/
inductive Subscription where
  /-- A subscription. -/
  | mk (name : String) (adds : List Subscription) (panics : Bool)

namespace Subscription

/-- The name of a subscription. -/
def name : Subscription → String
  | .mk name _ _ => name

/-- The subscriptions that are added when this one is disposed of. -/
def adds : Subscription → List Subscription
  | .mk _ adds _ => adds

/-- Whether disposing of this one breaks down. -/
def panics : Subscription → Bool
  | .mk _ _ panics => panics

/-- A subscription that does nothing but go away. -/
def plain (name : String) : Subscription := .mk name [] false

end Subscription

/-- A subscription with its number. -/
abbrev NumberedSubscription := Nat × Subscription

/-- The subscriptions that have not been released. -/
structure Subscriptions where
  /-- The number of the next subscription. -/
  next : Nat
  /-- The subscriptions, oldest first. -/
  live : List NumberedSubscription

/-- A subscription that was disposed of, and how many there were when that began. -/
structure Disposed where
  /-- The subscription. -/
  subscription : NumberedSubscription
  /-- How many subscriptions there were. -/
  count : Nat

namespace Subscriptions

/-- No subscriptions. -/
def empty : Subscriptions := ⟨0, []⟩

/-- Adds a subscription. -/
def push (s : Subscriptions) (subscription : Subscription) : Subscriptions :=
  ⟨s.next + 1, s.live ++ [(s.next, subscription)]⟩

/-- How many subscriptions there are. -/
def count (s : Subscriptions) : Nat := s.live.length

/-- Disposes of subscriptions one by one. Answers those it came to, the one that broke down
included, and whether none did. -/
def disposeAll : Subscriptions → List NumberedSubscription →
    Subscriptions × List Disposed × Bool
  | s, [] => (s, [], true)
  | s, numbered :: rest =>
    let disposed : Disposed := ⟨numbered, s.count⟩
    let s := numbered.2.adds.foldl push s
    if numbered.2.panics then (s, [disposed], false)
    else
      let (s, more, well) := disposeAll s rest
      (s, disposed :: more, well)

/-- Releases all subscriptions. -/
def release (s : Subscriptions) : Subscriptions × List Disposed × Bool :=
  disposeAll { s with live := [] } s.live.reverse

/-- The part of the program that log records of this module come from. -/
def logTarget : String := "kide_types::context"

/-- The record that tells of a disposal. -/
def disposedRecord (d : Disposed) : Log.Record :=
  ⟨.debug, logTarget, "Disposing", [("subscription", .text d.subscription.2.name)]⟩

/-- A new subscription is counted. -/
@[simp] theorem count_push (s : Subscriptions) (subscription : Subscription) :
    (s.push subscription).count = s.count + 1 := by
  simp [push, count]

/-- Where there are no subscriptions, none is disposed of. -/
@[simp] theorem release_empty : release empty = (empty, [], true) := rfl

end Subscriptions

/-! ## The parts of the context

What every part of the program works with: the host, the storage directory, the workspace, and the
subscriptions that are released in the end. -/

/-- The context of a run. -/
structure Context where
  /-- The host. -/
  host : Host
  /-- The storage directory. -/
  storage : FilePath
  /-- The root of the workspace. -/
  workspace : FilePath
  /-- What is to be released. -/
  subscriptions : Subscriptions

namespace Context

/-- A context in which nothing has happened. -/
def fresh (faults : Faults) (storage workspace : FilePath) : Context :=
  ⟨.fresh faults, storage, workspace, .empty⟩

/-- The context as shown in diagnostics; the host is left out. -/
def describe (c : Context) : String :=
  "ExtensionContext \x7b global_storage_path: " ++ Text.Quoted.ofBytes c.storage.bytes ++
    ", workspace_root: " ++ Text.Quoted.ofBytes c.workspace.bytes ++
    ", subscriptions: " ++ toString c.subscriptions.count ++ ", .. \x7d"

end Context

end ToolingHost
