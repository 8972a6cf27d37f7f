import ToolingHost.Client.Conversation

/-! # Rehearsals

A rehearsal is a conversation with a server that follows a script: it reads messages, writes bytes
or messages, closes its ends of the pipes, ends, or never does anything again. After the last line
it closes its output, reads the rest of its input, and ends. It keeps a record of what it read.

The parties of the client make every step they can before the server makes one, and a time limit
only expires when nothing else can happen. So a rehearsal is one particular run of
`Conversation.step`. -/

namespace ToolingHost.Client

open ToolingHost.Json

/-- A line of a server's script. -/
inductive ScriptLine where
  /-- Read a message. -/
  | read
  /-- Write bytes. -/
  | send (bytes : Bytes)
  /-- Close the output. -/
  | close
  /-- Close the input. -/
  | closeInput
  /-- Wait a moment. -/
  | sleep
  /-- End. -/
  | exit
  /-- Never do anything again. -/
  | hang
  deriving DecidableEq, Repr

/-- What a server saw on its input. -/
inductive Sighting where
  /-- A message. -/
  | message (v : Value)
  /-- Something that is no message. -/
  | garbled
  /-- The end. -/
  | ended

/-- A server that follows a script. -/
structure ScriptedServer where
  /-- The lines that are left; after them the server reads what is left of its input. -/
  script : List ScriptLine
  /-- Whether the script is over and the output has been closed. -/
  draining : Bool
  /-- What it has read of a message that is not complete. -/
  partial_ : Bytes
  /-- What it saw on its input, in order. -/
  seen : List Sighting

namespace ScriptedServer

/-- A server at the start of its script. -/
def ofScript (script : List ScriptLine) : ScriptedServer := ⟨script, false, [], []⟩

/-- What the server sees on its input, if it can read anything, with how many bytes it takes; no
sighting if these are not all of a message. -/
def look? (server : ScriptedServer) (link : Link) : Option (Option Sighting × Nat) :=
  if !link.input.readable then some (some .ended, 0)
  else
    let content := link.input.content
    match Frame.read? (!link.input.writable) (server.partial_ ++ content) with
    | none => if content.isEmpty then none else some (none, content.length)
    | some (outcome, rest) =>
      let count := content.length - rest.length
      match outcome with
      | .message v => some (some (.message v), count)
      | .ended => some (some .ended, count)
      | .failed _ => some (some .garbled, count)

/-- The moves that go with taking bytes of the input. -/
def takeMoves (count : Nat) : List ServerMove := if count = 0 then [] else [.take count]

/-- The server after it has read bytes that are a sighting, or part of a message. -/
def saw (server : ScriptedServer) (bytes : Bytes) : Option Sighting → ScriptedServer
  | none => { server with partial_ := server.partial_ ++ bytes }
  | some sighting => { server with partial_ := [], seen := server.seen ++ [sighting] }

/-- What the server does next, if it can do anything: its state afterwards and its moves. -/
def next? (server : ScriptedServer) (link : Link) : Option (ScriptedServer × List ServerMove) :=
  if !link.alive then none
  else
    match server.script with
    | [] =>
      if !server.draining then some ({ server with draining := true }, [.closeOutput])
      else
        (server.look? link).map fun (sighting?, count) =>
          let server := server.saw (link.input.content.take count) sighting?
          match sighting? with
          | some .ended => (server, takeMoves count ++ [.exit])
          | _ => (server, takeMoves count)
    | .read :: rest =>
      (server.look? link).map fun (sighting?, count) =>
        -- the line is done once a message is complete
        let script := if sighting?.isSome then rest else server.script
        ({ server.saw (link.input.content.take count) sighting? with script }, takeMoves count)
    | .send bytes :: rest =>
      if bytes.isEmpty || !link.output.writable then some ({ server with script := rest }, [])
      else if !link.output.readable then some ({ server with script := rest }, [.write bytes])
      else
        let room := link.output.room link.capacity
        if room = 0 then none
        else
          let left := bytes.drop room
          -- what did not fit is written later
          let script := if left.isEmpty then rest else .send left :: rest
          some ({ server with script }, [.write (bytes.take room)])
    | .close :: rest => some ({ server with script := rest }, [.closeOutput])
    | .closeInput :: rest => some ({ server with script := rest }, [.closeInput])
    | .sleep :: rest => some ({ server with script := rest }, [])
    | .exit :: rest => some ({ server with script := rest }, [.exit])
    | .hang :: _ => none

end ScriptedServer

/-- A conversation in progress. -/
structure Rehearsal where
  /-- The client and its link. -/
  conversation : Conversation
  /-- The server. -/
  server : ScriptedServer
  /-- The calls that are left. -/
  calls : List Call
  /-- What has happened, in order. -/
  events : List Event

namespace Rehearsal

/-- The pipes hold as much as the system gives them. -/
def pipeCapacity : Nat := 65536

/-- Does some steps of the conversation, if they are possible. -/
def play? (r : Rehearsal) (actions : List Action) : Option Rehearsal :=
  (r.conversation.run actions).map fun (conversation, events) =>
    { r with conversation, events := r.events ++ events }

/-- The next step of the parties of the client: of the caller if it can make one, else of the
reader, else of the writer. -/
def stepClient? (r : Rehearsal) : Option Rehearsal :=
  (r.play? [.party .caller]).orElse fun _ =>
    (r.play? [.party .reader]).orElse fun _ => r.play? [.party .writer]

/-- The next call. -/
def stepCall? (r : Rehearsal) : Option Rehearsal :=
  match r.calls with
  | [] => none
  | call :: rest => (r.play? [.call call]).map fun r => { r with calls := rest }

/-- The next step of the server. -/
def stepServer? (r : Rehearsal) : Option Rehearsal :=
  match r.server.next? r.conversation.link with
  | none => none
  | some (server, moves) => (r.play? (moves.map .server)).map fun r => { r with server }

/-- The next step of the conversation. -/
def step? (r : Rehearsal) : Option Rehearsal :=
  r.stepClient?.orElse fun _ =>
    r.stepCall?.orElse fun _ =>
      -- time passes only when everyone waits
      r.stepServer?.orElse fun _ => r.play? [.expire]

/-- At most `fuel` steps of the conversation. -/
def steps : (fuel : Nat) → Rehearsal → Rehearsal
  | 0, r => r
  | fuel + 1, r =>
    match r.step? with
    | none => r
    | some next => steps fuel next

/-- The number of bytes that a line writes. -/
def lineSize : ScriptLine → Nat
  | .send bytes => bytes.length
  | _ => 0

/-- A bound on the steps of a conversation: every call takes a few, and so does every line of the
script and every message that it can hold. -/
def fuelFor (script : List ScriptLine) (calls : List Call) : Nat :=
  100 + 100 * calls.length + 16 * script.foldl (fun n line => n + (1 + lineSize line)) 0

/-- Runs a conversation to its end. -/
def run (name : String) (processId : Value) (script : List ScriptLine) (calls : List Call) :
    Rehearsal :=
  steps (fuelFor script calls)
    ⟨.fresh name processId pipeCapacity, .ofScript script, calls, []⟩

/-- What the calls returned, in order. -/
def outcomes (r : Rehearsal) : List Outcome :=
  r.events.filterMap fun
    | .returned outcome => some outcome
    | _ => none

/-- What a party wrote into the log, in order. -/
def records (r : Rehearsal) : List (Party × Log.Record) :=
  r.events.filterMap fun
    | .logged party record => some (party, record)
    | _ => none

end Rehearsal

end ToolingHost.Client
