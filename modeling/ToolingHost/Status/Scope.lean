import ToolingHost.Host.Call

/-! # Status entries and scopes

A status entry is what the program shows of an activity; a scope shows one for as long as an action
runs. -/

/-! ## Status entries

An entry owns one status item of the host and writes its lead, a fixed text, before every message.
Once the item has been disposed of, the entry has none, and all operations but asking for it do
nothing. An operation answers `false` or `none` where a call to the host broke down. -/

namespace ToolingHost

/-- An entry of the status line. -/
structure StatusEntry where
  /-- The text before every message. -/
  lead : String
  /-- The item, as long as it has not been disposed of. -/
  item : Option Nat
  deriving DecidableEq, Repr

namespace StatusEntry

/-- The text for a message. -/
def label (e : StatusEntry) (message : String) : String := e.lead ++ " " ++ message

/-- Sets the text that an entry starts with. -/
def begin (host : Host) (e : StatusEntry) : Host × Bool :=
  match e.item with
  | some item => host.attempt (.setText item e.lead)
  | none => (host, true)

/-- Shows the item. -/
def reveal (host : Host) (e : StatusEntry) : Host × Bool :=
  match e.item with
  | some item => host.attempt (.showItem item)
  | none => (host, true)

/-- Replaces the message. -/
def update (host : Host) (e : StatusEntry) (message : String) : Host × Bool :=
  match e.item with
  | some item => host.attempt (.setText item (e.label message))
  | none => (host, true)

/-- The entry after its item has been disposed of. -/
def released (e : StatusEntry) : StatusEntry := { e with item := none }

/-- Disposes of the item. Answers whether there was one; it is gone even where the call breaks
down. -/
def dispose (host : Host) (e : StatusEntry) : Host × Option Bool :=
  match e.item with
  | some item =>
    let (host, well) := host.attempt (.disposeItem item)
    (host, if well then some true else none)
  | none => (host, some false)

/-- Whether the item has been disposed of. -/
def isDisposed (e : StatusEntry) : Bool := e.item.isNone

/-- Creates an entry and sets its first text. If that text breaks down, the item stays as it is and
belongs to no entry. -/
def create (host : Host) (lead : String) : Host × Option StatusEntry :=
  match host.createItem with
  | (host, none) => (host, none)
  | (host, some item) =>
    let entry : StatusEntry := ⟨lead, some item⟩
    match begin host entry with
    | (host, true) => (host, some entry)
    | (host, false) => (host, none)

/-- A disposed entry stays disposed. -/
@[simp] theorem isDisposed_released (e : StatusEntry) : e.released.isDisposed = true := rfl

/-- Showing a disposed entry does nothing. -/
@[simp] theorem reveal_released (host : Host) (e : StatusEntry) :
    reveal host e.released = (host, true) := rfl

/-- Updating a disposed entry does nothing. -/
@[simp] theorem update_released (host : Host) (e : StatusEntry) (message : String) :
    update host e.released message = (host, true) := rfl

/-- Disposing of a disposed entry does nothing and says so. -/
@[simp] theorem dispose_released (host : Host) (e : StatusEntry) :
    dispose host e.released = (host, some false) := rfl

end StatusEntry

/-! ## Spinning status scopes

An action that takes a while runs in a scope: a status entry with a spinner is created and shown
before the action, and disposed of after it, however the action ends. `Scope.advance` makes the
steps around the action one by one, each at most one call to the host; what happens while the action
runs is up to its owner. -/

/-- The lead of an entry that shows a spinner. -/
def spinner : String := "$(sync~spin)"

/-- How far a scope has come. `β` is what is left of the action, `ρ` what it results in; a result of
`none` means that the scope broke down. -/
inductive Scope.Phase (β ρ : Type) where
  /-- Nothing has been done. -/
  | fresh
  /-- The item has been created. -/
  | created
  /-- The spinner has been set. -/
  | labelled
  /-- The item has been shown; the action starts next. -/
  | shown
  /-- The action runs. -/
  | running (body : β)
  /-- The action has ended; the item is disposed of next. -/
  | closing (result : Option ρ)
  /-- Everything is over. -/
  | closed (result : Option ρ)
  deriving DecidableEq, Repr

/-- A status entry and how far its scope has come. -/
structure Scope (β ρ : Type) where
  /-- The status entry. -/
  entry : StatusEntry
  /-- How far the scope has come. -/
  phase : Scope.Phase β ρ
  deriving DecidableEq, Repr

namespace Scope

/-- A scope at its start. -/
def fresh {β ρ : Type} : Scope β ρ := ⟨⟨spinner, none⟩, .fresh⟩

/-- The scope when its action has ended. -/
def finish {β ρ : Type} (s : Scope β ρ) (result : Option ρ) : Scope β ρ :=
  { s with phase := .closing result }

/-- The next step around the action; while the action runs, nothing. -/
def advance {β ρ : Type} (host : Host) (s : Scope β ρ) : Host × Scope β ρ :=
  match s.phase with
  | .fresh =>
    match host.createItem with
    | (host, none) => (host, { s with phase := .closed none })
    | (host, some item) => (host, ⟨{ s.entry with item := some item }, .created⟩)
  | .created =>
    match s.entry.begin host with
    | (host, true) => (host, { s with phase := .labelled })
    | (host, false) => (host, ⟨s.entry.released, .closed none⟩)
  | .labelled =>
    match s.entry.reveal host with
    | (host, true) => (host, { s with phase := .shown })
    | (host, false) => (host, s.finish none)
  | .closing result =>
    match s.entry.dispose host with
    | (host, some _) => (host, ⟨s.entry.released, .closed result⟩)
    | (host, none) => (host, ⟨s.entry.released, .closed none⟩)
  | .shown | .running _ | .closed _ => (host, s)

/-- The steps up to the action: the scope is then shown, or has broken down. -/
def begin {β ρ : Type} (host : Host) (s : Scope β ρ) : Host × Scope β ρ :=
  let (host, s) := advance host s
  let (host, s) := advance host s
  advance host s

end Scope

end ToolingHost
