import ToolingHost.Bytes
import ToolingHost.Json.Writer
import ToolingHost.Text.Classes

/-! # Messages in frames

On a stream a message stands in a frame: a header with the number of bytes of its body, a blank
line, and the body. Header lines are read generously, line by line; what is written is always of the
one form. -/

/-! ## Header lines of a message

A message starts with header lines, each ending in a line feed, and a blank line after them. The
only line that matters is the one named `Content-Length`, in any mix of ASCII cases; every other
line, with or without a colon, is passed over. `HeaderLine.ofBytes` says what one line means. -/

namespace ToolingHost.Frame

/-- The line feed, which ends a line. -/
def lineFeed : UInt8 := 10

/-- The name of the header that counts. -/
def lengthName : List Char := "Content-Length".toList

/-- What a header line says. -/
inductive HeaderLine where
  /-- The line is not text. -/
  | garbled
  /-- The line is blank: the header is complete. -/
  | blank
  /-- The length of the body. -/
  | length (n : Nat)
  /-- A length that is not a natural number of 64 bits. -/
  | badLength (value : String)
  /-- Any other line. -/
  | other
  deriving DecidableEq, Repr

/-- Whether two characters are the same up to the case of ASCII letters. -/
def sameLetter (a b : Char) : Bool := a.toLower == b.toLower

/-- Whether two texts are the same up to the case of ASCII letters. -/
def sameName : List Char → List Char → Bool
  | [], [] => true
  | a :: left, b :: right => sameLetter a b && sameName left right
  | _, _ => false

/-- A natural number below `2 ^ 64` in decimal digits, after an optional plus sign. -/
def natural? (chars : List Char) : Option Nat :=
  let digits := match chars with
    | '+' :: rest => rest
    | _ => chars
  if digits.isEmpty || !digits.all Char.isDigit then none
  else
    -- capped, so that a long numeral does not make a huge number
    let n := digits.foldl (fun n c => min (Nat.pow 2 64) (n * 10 + (c.toNat - '0'.toNat))) 0
    if n < Nat.pow 2 64 then some n else none

/-- What the characters of a line say. -/
def HeaderLine.ofChars (chars : List Char) : HeaderLine :=
  let trimmed := Text.trim chars
  if trimmed.isEmpty then .blank
  else
    match trimmed.dropWhile (· != ':') with
    -- there is no colon
    | [] => .other
    | _ :: rest =>
      if sameName (Text.trim (trimmed.takeWhile (· != ':'))) lengthName then
        let value := Text.trim rest
        match natural? value with
        | some n => .length n
        | none => .badLength (String.ofList value)
      else .other

/-- What a line says. -/
def HeaderLine.ofBytes (line : Bytes) : HeaderLine :=
  match Utf8.chars? line with
  | none => .garbled
  | some chars => .ofChars chars

/-! ## Writing messages to a stream

A message is written as one `Content-Length` header with the number of bytes of its body, a blank
line, and the body. -/

/-- The header for a body of `length` bytes, with the blank line that ends it. -/
def header (length : Nat) : Bytes :=
  Bytes.ofString "Content-Length: " ++ Bytes.ofString (toString length) ++
    Bytes.ofString "\r\n\r\n"

/-- The written form of a message. -/
def encode (message : Json.Value) : Bytes :=
  let body := message.toBytes
  header body.length ++ body

/-- The written form of several messages, one after the other. -/
def encodeAll (messages : List Json.Value) : Bytes := messages.flatMap encode

/-- Nothing is written for no messages. -/
@[simp] theorem encodeAll_nil : encodeAll [] = [] := rfl

/-- Messages are written in order, each on its own. -/
@[simp] theorem encodeAll_cons (m : Json.Value) (rest : List Json.Value) :
    encodeAll (m :: rest) = encode m ++ encodeAll rest := rfl

end ToolingHost.Frame
