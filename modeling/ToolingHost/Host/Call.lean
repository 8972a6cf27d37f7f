import ToolingHost.DebugAdapter
import ToolingHost.LanguageRules.Basic

/-! # The host

The program runs inside a host, an editor or a terminal, which it only calls. A host numbers the
status items that it hands out. A call on a status item may break down, which ends the task that
made it; the host records such a call all the same, except that an item whose creation breaks down
never exists. -/

namespace ToolingHost

/-- A call to the host. -/
inductive HostCall where
  /-- Sets the editing rules of a language. -/
  | setLanguage (language : String) (rules : LanguageRules)
  /-- Registers a debug adapter. -/
  | registerDebugAdapter (registration : DebugAdapter.Registration)
  /-- Creates a status item, which is hidden. -/
  | createItem (item : Nat)
  /-- Sets the text of a status item. -/
  | setText (item : Nat) (text : String)
  /-- Shows a status item. -/
  | showItem (item : Nat)
  /-- Disposes of a status item. -/
  | disposeItem (item : Nat)

/-- Which calls break down, given the calls before. -/
abbrev Faults := List HostCall → HostCall → Bool

/-- A host that never breaks down. -/
def Faults.none : Faults := fun _ _ => false

/-- A host with the calls that were made to it. -/
structure Host where
  /-- Which calls break down. -/
  faults : Faults
  /-- The calls so far, in order. -/
  history : List HostCall
  /-- The number of the next status item. -/
  nextItem : Nat

namespace Host

/-- A host to which no calls were made. -/
def fresh (faults : Faults) : Host := ⟨faults, [], 0⟩

/-- Makes a call that cannot break down. -/
def tell (h : Host) (call : HostCall) : Host := { h with history := h.history ++ [call] }

/-- Makes a call, and says whether it went well. -/
def attempt (h : Host) (call : HostCall) : Host × Bool := (h.tell call, !h.faults h.history call)

/-- Creates a status item, unless that breaks down. The number is used up in any case. -/
def createItem (h : Host) : Host × Option Nat :=
  let item := h.nextItem
  let used := { h with nextItem := item + 1 }
  if h.faults h.history (.createItem item) then (used, none)
  else (used.tell (.createItem item), some item)

/-- A call is added at the end of the history. -/
@[simp] theorem history_tell (h : Host) (call : HostCall) :
    (h.tell call).history = h.history ++ [call] := rfl

/-- A call is recorded whether it breaks down or not. -/
@[simp] theorem history_attempt (h : Host) (call : HostCall) :
    (h.attempt call).1.history = h.history ++ [call] := rfl

end Host

end ToolingHost
