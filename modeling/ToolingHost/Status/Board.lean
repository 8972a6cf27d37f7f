import ToolingHost.Status.Scope

/-! # A board of status entries

Several entries on one host, updated through the entries themselves or through handles taken from
them, and scopes that run between the other operations. Entries and handles are numbered in the
order in which they were made. A handle may be used after its entry is gone; then it does nothing.
-/

namespace ToolingHost

/-- What the action of a scope does. -/
inductive Board.Act (α : Type) where
  /-- Replaces the message. -/
  | update (message : String)
  /-- Keeps a handle beyond the scope. -/
  | keep
  /-- Ends with a value. -/
  | finish (value : α)
  /-- Breaks down. -/
  | panic
  /-- Waits forever, until the scope is given up. -/
  | wait

/-- An operation on a board. -/
inductive Board.Op (α : Type) where
  /-- Creates an entry. -/
  | new (lead : String)
  /-- Shows an entry. -/
  | reveal (entry : Nat)
  /-- Replaces the message of an entry. -/
  | update (entry : Nat) (message : String)
  /-- Takes a handle from an entry. -/
  | handle (entry : Nat)
  /-- Replaces the message through a handle. -/
  | handleUpdate (handle : Nat) (message : String)
  /-- Disposes of an entry. -/
  | dispose (entry : Nat)
  /-- Asks whether an entry has been disposed of. -/
  | isDisposed (entry : Nat)
  /-- Gives an entry up, which disposes of it. -/
  | drop (entry : Nat)
  /-- Runs an action in a scope. -/
  | scope (acts : List (Board.Act α))

/-- What an operation answers. -/
inductive Board.Answer (α : Type) where
  /-- It is done. -/
  | done
  /-- The number of a new entry or handle. -/
  | number (n : Nat)
  /-- A truth value. -/
  | flag (b : Bool)
  /-- The value with which an action ended, if it gave one. -/
  | output (value : Option α)
  /-- The action was given up. -/
  | dropped
  /-- The operation broke down. -/
  | panic

/-- A board. -/
structure Board where
  /-- The host. -/
  host : Host
  /-- All entries, those of scopes included. -/
  slots : List StatusEntry
  /-- The places in `slots` of the numbered entries. -/
  entries : List Nat
  /-- The places in `slots` to which the handles lead. -/
  handles : List Nat

namespace Board

/-- A board without entries. -/
def empty (faults : Faults) : Board := ⟨.fresh faults, [], [], []⟩

/-- The entry at a place; where there is none, one that has been disposed of. -/
def slot (b : Board) (place : Nat) : StatusEntry := b.slots.getD place ⟨"", none⟩

/-- The place of a numbered entry. -/
def entryPlace (b : Board) (entry : Nat) : Nat := b.entries.getD entry b.slots.length

/-- The place to which a handle leads. -/
def handlePlace (b : Board) (handle : Nat) : Nat := b.handles.getD handle b.slots.length

/-- The answer to a call that went well or not. -/
def outcome {α : Type} (well : Bool) : Answer α := if well then .done else .panic

/-- Replaces the message of the entry at a place. -/
def updateAt {α : Type} (b : Board) (place : Nat) (message : String) : Board × Answer α :=
  let (host, well) := (b.slot place).update b.host message
  ({ b with host }, outcome well)

/-- Disposes of the entry at a place. -/
def disposeAt (b : Board) (place : Nat) : Board × Option Bool :=
  let (host, answer) := (b.slot place).dispose b.host
  ({ b with host, slots := b.slots.modify place StatusEntry.released }, answer)

/-- How the action of a scope ended. -/
inductive Ending (α : Type) where
  /-- With a value or without. -/
  | value (value : Option α)
  /-- It waits forever. -/
  | waiting

/-- Runs an action on the entry at a place; `none` where it breaks down. -/
def act {α : Type} (place : Nat) : Board → List (Act α) → Board × Option (Ending α)
  | b, [] => (b, some (.value none))
  | b, .update message :: rest =>
    match (b.slot place).update b.host message with
    | (host, true) => act place { b with host } rest
    | (host, false) => ({ b with host }, none)
  | b, .keep :: rest => act place { b with handles := b.handles ++ [place] } rest
  | b, .finish value :: _ => (b, some (.value (some value)))
  | b, .panic :: _ => (b, none)
  | b, .wait :: _ => (b, some .waiting)

/-- What a scope answers. -/
def scopeAnswer {α : Type} : Option (Ending α) → Answer α
  | some (.value value) => .output value
  | some .waiting => .dropped
  | none => .panic

/-- Runs an action in a scope. -/
def scope {α : Type} (b : Board) (acts : List (Act α)) : Board × Answer α :=
  let (host, s) := Scope.begin (β := Unit) (ρ := Ending α) b.host .fresh
  let place := b.slots.length
  let (b, s) : Board × Scope Unit (Ending α) :=
    match s.phase with
    | .shown =>
      let (b, result) := act place { b with host, slots := b.slots ++ [s.entry] } acts
      (b, s.finish result)
    | _ => ({ b with host, slots := b.slots ++ [s.entry] }, s)
  let (host, s) := s.advance b.host
  let b := { b with host, slots := b.slots.set place s.entry }
  match s.phase with
  | .closed result => (b, scopeAnswer result)
  | _ => (b, .panic)

/-- Carries out an operation. -/
def apply {α : Type} (b : Board) : Op α → Board × Answer α
  | .new lead =>
    match StatusEntry.create b.host lead with
    | (host, some entry) =>
      ({ b with host, slots := b.slots ++ [entry], entries := b.entries ++ [b.slots.length] },
        .number b.entries.length)
    | (host, none) => ({ b with host }, .panic)
  | .reveal entry =>
    let (host, well) := (b.slot (b.entryPlace entry)).reveal b.host
    ({ b with host }, outcome well)
  | .update entry message => b.updateAt (b.entryPlace entry) message
  | .handle entry =>
    ({ b with handles := b.handles ++ [b.entryPlace entry] }, .number b.handles.length)
  | .handleUpdate handle message => b.updateAt (b.handlePlace handle) message
  | .dispose entry =>
    let (b, answer) := b.disposeAt (b.entryPlace entry)
    (b, match answer with
      | some released => .flag released
      | none => .panic)
  | .isDisposed entry => (b, .flag (b.slot (b.entryPlace entry)).isDisposed)
  | .drop entry =>
    let (b, answer) := b.disposeAt (b.entryPlace entry)
    (b, outcome answer.isSome)
  | .scope acts => b.scope acts

/-- Gives all entries up, in the order in which they were made. -/
def close (b : Board) : Board := b.entries.foldl (fun b place => (b.disposeAt place).1) b

end Board

end ToolingHost
