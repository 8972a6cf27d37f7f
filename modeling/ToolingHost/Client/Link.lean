import ToolingHost.Bytes

/-! # The link to a server

A server is a process whose input and output are pipes of finite capacity. Each end of a pipe is
open until its holder closes it or ends. What was written stays readable after the writing end has
been closed; writing fails once the reading end has been closed. -/

namespace ToolingHost.Client

/-- One pipe. -/
structure Pipe where
  /-- What was written and not read yet. -/
  content : Bytes
  /-- Whether the writing end is open. -/
  writable : Bool
  /-- Whether the reading end is open. -/
  readable : Bool
  deriving DecidableEq, Repr

namespace Pipe

/-- A new pipe. -/
def fresh : Pipe := ⟨[], true, true⟩

/-- How many more bytes fit. -/
def room (capacity : Nat) (p : Pipe) : Nat := capacity - p.content.length

/-- Writes bytes, which have to fit. -/
def write (p : Pipe) (bytes : Bytes) : Pipe := { p with content := p.content ++ bytes }

/-- Reads a number of bytes. -/
def take (p : Pipe) (count : Nat) : Pipe := { p with content := p.content.drop count }

/-- Whether nothing will ever be read again. -/
def ended (p : Pipe) : Bool := p.content.isEmpty && !p.writable

end Pipe

/-- A server as its client sees it. -/
structure Link where
  /-- How much fits into each pipe. -/
  capacity : Nat
  /-- The pipe from the client to the server. -/
  input : Pipe
  /-- The pipe from the server to the client. -/
  output : Pipe
  /-- Whether the process of the server runs. -/
  alive : Bool
  deriving DecidableEq, Repr

/-- What a server may do to its link. -/
inductive ServerMove where
  /-- Reads a number of bytes. -/
  | take (count : Nat)
  /-- Writes bytes that fit; where nobody reads any more they are lost. -/
  | write (bytes : Bytes)
  /-- Closes its end of the input. -/
  | closeInput
  /-- Closes its end of the output. -/
  | closeOutput
  /-- Ends. -/
  | exit
  deriving DecidableEq, Repr

namespace Link

/-- The link to a server that has just been started. -/
def fresh (capacity : Nat) : Link := ⟨capacity, .fresh, .fresh, true⟩

/-- The link after the process of the server has ended. -/
def kill (l : Link) : Link :=
  { l with
    input := { l.input with readable := false }
    output := { l.output with writable := false }
    alive := false }

/-- Carries out a move of the server, if it is possible. -/
def move? (l : Link) : ServerMove → Option Link
  | .take count =>
    if l.alive && l.input.readable && count ≤ l.input.content.length then
      some { l with input := l.input.take count }
    else none
  | .write bytes =>
    if l.alive && l.output.writable then
      -- nobody reads any more
      if !l.output.readable then some l
      else if bytes.length ≤ l.output.room l.capacity then
        some { l with output := l.output.write bytes }
      else none
    else none
  | .closeInput =>
    if l.alive then some { l with input := { l.input with readable := false } } else none
  | .closeOutput =>
    if l.alive then some { l with output := { l.output with writable := false } } else none
  | .exit => if l.alive then some l.kill else none

end Link

end ToolingHost.Client
