import ToolingHost.Json.Token
import ToolingHost.Bytes

/-! # Reading JSON

Tokens are read by a machine with a stack of the containers that are open. A text is accepted when
it holds exactly one value; arrays and objects may be nested to a depth of `maxDepth`. In an object
the last of several members with one key counts, and members are kept in the order of their keys. -/

namespace ToolingHost.Json

/-- How deeply containers may be nested. -/
def maxDepth : Nat := 127

namespace Reader

/-- A container that is open. -/
inductive Frame where
  /-- An array with its items so far, newest first. -/
  | array (items : List Value)
  /-- An object with its members so far and the key whose value is being read. -/
  | object (members : Members) (key : String)

/-- What may come next. -/
inductive Expect where
  /-- A value. -/
  | value
  /-- A value, or the end of the array that was just opened. -/
  | itemOrEnd
  /-- A key, or the end of the object that was just opened. -/
  | keyOrEnd
  /-- A key. -/
  | key
  /-- The colon after a key. -/
  | colon
  /-- A comma, or the end of the innermost container. -/
  | commaOrEnd
  /-- Nothing: the value is complete. -/
  | done (v : Value)

/-- The state of the machine. -/
structure State where
  /-- The open containers, innermost first. -/
  stack : List Frame
  /-- What may come next. -/
  expect : Expect

/-- A value is complete: it is an item, a member, or the whole. -/
def State.complete (stack : List Frame) (v : Value) : State :=
  match stack with
  | [] => ⟨[], .done v⟩
  | .array items :: outer => ⟨.array (v :: items) :: outer, .commaOrEnd⟩
  | .object members key :: outer =>
    ⟨.object (Ordered.insert key v members) key :: outer, .commaOrEnd⟩

/-- Opens a container, if the nesting allows it. -/
def State.opening (stack : List Frame) (frame : Frame) (expect : Expect) : Option State :=
  if stack.length < maxDepth then some ⟨frame :: stack, expect⟩ else none

/-- Closes the innermost container. -/
def State.closing : List Frame → Token → Option State
  | .array items :: outer, .closeArray => some (State.complete outer (.array items.reverse))
  | .object members _ :: outer, .closeObject => some (State.complete outer (.object members))
  | _, _ => none

/-- A token where a value may start. -/
def State.value? (stack : List Frame) : Token → Option State
  | .scalar v => some (State.complete stack v)
  | .text s => some (State.complete stack (.string s))
  | .openArray => State.opening stack (.array []) .itemOrEnd
  | .openObject => State.opening stack (.object [] "") .keyOrEnd
  | _ => none

/-- A token where a key must stand. -/
def State.key? : List Frame → Token → Option State
  | .object members _ :: outer, .text key => some ⟨.object members key :: outer, .colon⟩
  | _, _ => none

/-- One token. -/
def State.step? (s : State) (token : Token) : Option State :=
  match s.expect, token with
  | .value, token => State.value? s.stack token
  | .itemOrEnd, .closeArray => State.closing s.stack .closeArray
  | .itemOrEnd, token => State.value? s.stack token
  | .keyOrEnd, .closeObject => State.closing s.stack .closeObject
  | .keyOrEnd, token => State.key? s.stack token
  | .key, token => State.key? s.stack token
  | .colon, .colon => some ⟨s.stack, .value⟩
  | .commaOrEnd, .comma =>
    match s.stack with
    | .array _ :: _ => some ⟨s.stack, .value⟩
    -- no end of the object here: a comma at its end is refused
    | .object _ _ :: _ => some ⟨s.stack, .key⟩
    | [] => none
  | .commaOrEnd, token => State.closing s.stack token
  | _, _ => none

/-- Runs the machine over a list of tokens. -/
def run? : State → List Token → Option State
  | s, [] => some s
  | s, token :: rest =>
    match s.step? token with
    | none => none
    | some next => run? next rest

end Reader

/-- The value that a list of characters spells. -/
def parse? (chars : List Char) : Option Value :=
  match Token.scan? [] .between chars with
  | none => none
  | some tokens =>
    match Reader.run? ⟨[], .value⟩ tokens with
    | some ⟨[], .done v⟩ => some v
    | _ => none

/-- The value that a byte string spells. -/
def parseBytes? (bytes : Bytes) : Option Value := (Utf8.chars? bytes).bind parse?

end ToolingHost.Json
