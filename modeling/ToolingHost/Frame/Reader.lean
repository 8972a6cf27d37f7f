import ToolingHost.Frame.Header
import ToolingHost.Text.Shown
import ToolingHost.Json.Reader
import ToolingHost.IoError

/-! # Reading messages from a stream

A message is a header, a blank line, and a body of as many bytes as the header says. The reader
works on the bytes that have arrived. While the stream is open it answers `none` as long as the
outcome depends on bytes that are still to come; once the stream has ended (`ended`) it always has
an answer. An outcome comes with the bytes that were not consumed, so the next call goes on where
this one stopped, also after a failure. -/

namespace ToolingHost.Frame

/-- The greatest length of a body. -/
def maxBytes : Nat := 4 * 1024 * 1024

/-- Why no message could be read. -/
inductive Error where
  /-- The stream failed, held a line that is not text, or ended inside a body. -/
  | io (cause : IoError)
  /-- The stream ended inside a header. -/
  | truncatedHeader
  /-- The header gives no length. -/
  | missingContentLength
  /-- The header gives a length that is no number. -/
  | invalidContentLength (value : String)
  /-- The header gives a length above `maxBytes`. -/
  | tooLarge (length : Nat)
  /-- The body is not a JSON text. -/
  | json
  deriving DecidableEq, Repr

/-- The text of a failure. -/
def Error.message : Error → String
  | .io _ => "I/O error on message stream"
  | .truncatedHeader => "stream ended inside a message header"
  | .missingContentLength => "message header has no Content-Length"
  | .invalidContentLength value => "invalid Content-Length value " ++ Text.Quoted.ofString value
  | .tooLarge length =>
    "Content-Length " ++ toString length ++ " exceeds maximum " ++ toString maxBytes
  | .json => "message body is not valid JSON"

/-- The outcome of reading one message. -/
inductive Outcome where
  /-- A message. -/
  | message (v : Json.Value)
  /-- The stream ended between messages. -/
  | ended
  /-- No message could be read. -/
  | failed (e : Error)

/-- The outcome of reading a header. -/
inductive HeaderOutcome where
  /-- The stream ended before the first byte. -/
  | ended
  /-- The length of the body. -/
  | length (n : Nat)
  /-- The header is not usable. -/
  | failed (e : Error)
  deriving DecidableEq, Repr

/-- What a complete line does to a header whose last length so far is `length`: it ends the header,
or gives the last length for the lines that follow. -/
def afterLine (length : Option Nat) (line : Bytes) : HeaderOutcome ⊕ Option Nat :=
  match HeaderLine.ofBytes line with
  | .garbled => .inl (.failed (.io .notText))
  | .blank =>
    match length with
    | some n => .inl (.length n)
    | none => .inl (.failed .missingContentLength)
  | .length n => .inr (some n)
  | .badLength value => .inl (.failed (.invalidContentLength value))
  | .other => .inr length

/-- Reads the rest of a header. `line` holds the bytes of the current line, newest first; `fresh`
says that no line of the header has been completed. -/
def readHeader? (ended : Bool) (line : Bytes) (length : Option Nat) (fresh : Bool) :
    Bytes → Option (HeaderOutcome × Bytes)
  | [] =>
    if !ended then none
    else if line.isEmpty then some (if fresh then .ended else .failed .truncatedHeader, [])
    else
      -- the last line lacks its line feed, and still counts: a blank one completes the header
      match afterLine length line.reverse with
      | .inl outcome => some (outcome, [])
      | .inr _ => some (.failed .truncatedHeader, [])
  | b :: rest =>
    if b = lineFeed then
      match afterLine length (b :: line).reverse with
      | .inl outcome => some (outcome, rest)
      | .inr length => readHeader? ended [] length false rest
    else readHeader? ended (b :: line) length fresh rest

/-- Reads a body of `length` bytes. -/
def readBody? (ended : Bool) (length : Nat) (bytes : Bytes) : Option (Outcome × Bytes) :=
  -- the body of a message that is too long is not skipped
  if maxBytes < length then some (.failed (.tooLarge length), bytes)
  else
    let body := bytes.take length
    if body.length < length then
      if ended then some (.failed (.io .unexpectedEnd), []) else none
    else
      match Json.parseBytes? body with
      | some v => some (.message v, bytes.drop length)
      | none => some (.failed .json, bytes.drop length)

/-- Reads one message from the bytes that have arrived; `ended` says that no more will come. -/
def read? (ended : Bool) (bytes : Bytes) : Option (Outcome × Bytes) :=
  match readHeader? ended [] none true bytes with
  | none => none
  | some (.ended, rest) => some (.ended, rest)
  | some (.failed e, rest) => some (.failed e, rest)
  | some (.length n, rest) => readBody? ended n rest

/-- An ended stream always gives a header or a reason why there is none. -/
theorem readHeader?_ended_isSome (line : Bytes) (length : Option Nat) (fresh : Bool)
    (bytes : Bytes) : (readHeader? true line length fresh bytes).isSome = true := by
  induction bytes generalizing line length fresh with
  | nil =>
    simp only [readHeader?, Bool.not_true, Bool.false_eq_true, if_false]
    split
    · rfl
    · split <;> rfl
  | cons b rest ih =>
    simp only [readHeader?]
    split
    · split
      · rfl
      · exact ih ..
    · exact ih ..

/-- An ended stream always has an answer. -/
theorem read?_ended_isSome (bytes : Bytes) : (read? true bytes).isSome = true := by
  have header := readHeader?_ended_isSome [] none true bytes
  unfold read?
  split
  · simp_all
  · rfl
  · rfl
  · unfold readBody?
    split
    · rfl
    · dsimp only
      split
      · rfl
      · split <;> rfl

/-- Reads one message from a stream that has ended. -/
def read (bytes : Bytes) : Outcome × Bytes := (read? true bytes).get (read?_ended_isSome bytes)

/-- The outcomes of at most `calls` calls on one stream, up to and including its clean end. -/
def readAll : (calls : Nat) → Bytes → List Outcome
  | 0, _ => []
  | calls + 1, bytes =>
    match read bytes with
    | (.ended, _) => [.ended]
    | (outcome, rest) => outcome :: readAll calls rest

end ToolingHost.Frame
