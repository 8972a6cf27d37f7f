/-! # Bytes and texts

Files, pipes, path names and environment values are strings of bytes that need not be text. A text
has one form as bytes, its UTF-8 form; bytes are read as text by a decoder that finds every stray
byte. -/

/-! ## Byte strings

The type of byte strings, and the two ways in which text becomes bytes. -/

namespace ToolingHost

/-- A string of bytes. -/
abbrev Bytes := List UInt8

namespace Bytes

/-- The UTF-8 form of a list of characters. -/
def ofChars (chars : List Char) : Bytes := chars.flatMap String.utf8EncodeChar

/-- The UTF-8 form of a text. -/
def ofString (text : String) : Bytes := ofChars text.toList

/-- No character has an empty form, and the empty text is the empty byte string. -/
@[simp] theorem ofChars_nil : ofChars [] = [] := rfl

/-- Encoding works character by character. -/
@[simp] theorem ofChars_cons (c : Char) (rest : List Char) :
    ofChars (c :: rest) = String.utf8EncodeChar c ++ ofChars rest := rfl

/-- Encoding distributes over concatenation. -/
@[simp] theorem ofChars_append (left right : List Char) :
    ofChars (left ++ right) = ofChars left ++ ofChars right := by
  simp [ofChars]

/-- `bytes` cut at each occurrence of `separator`; always at least one part. -/
def cut (separator : UInt8) : Bytes → List Bytes
  | [] => [[]]
  | b :: rest =>
    if b = separator then [] :: cut separator rest
    else match cut separator rest with
      | [] => [[b]]
      | part :: parts => (b :: part) :: parts

/-- The byte of an ASCII character. -/
def byte (c : Char) : UInt8 := c.toNat.toUInt8

end Bytes

end ToolingHost

/-! ## Reading bytes as text

Bytes are read as UTF-8 by a decoder that takes one byte at a time. It cuts every byte string into
`Piece`s: characters, and stray runs of bytes that belong to no character. A stray run is the
longest start of a character that was begun and not finished, so each one is shown as a single
replacement character when text is wanted at any price (`lossy`). A byte string is text (`text?`)
when it has no stray piece. -/

namespace ToolingHost.Utf8

/-- A part of a byte string: a character, or bytes that form none. -/
inductive Piece where
  /-- A well-formed character. -/
  | char (c : Char)
  /-- A run of bytes that starts a character and does not finish it, or a byte that starts none. -/
  | stray (bytes : Bytes)
  deriving DecidableEq, Repr

/-- A character that has been begun: the bytes seen, newest first, the bits they carry, how many
bytes are missing, and the range in which the next one must lie. -/
structure Sequence where
  /-- The bytes taken so far, newest first. -/
  seen : Bytes
  /-- The value bits taken so far. -/
  code : Nat
  /-- How many bytes are still missing. -/
  missing : Nat
  /-- The least value of the next byte. -/
  low : UInt8
  /-- The greatest value of the next byte. -/
  high : UInt8
  deriving DecidableEq, Repr

/-- What a decoder does with a byte that comes between characters. The ranges of the second byte
exclude overlong forms, surrogates and values above the last character. -/
def start (b : UInt8) : Option Sequence × List Piece :=
  let wait (bits : UInt8) (missing : Nat) (low high : UInt8) : Option Sequence × List Piece :=
    (some ⟨[b], (b - bits).toNat, missing, low, high⟩, [])
  if b < 0x80 then (none, [.char (Char.ofNat b.toNat)])
  -- a byte that only continues characters, or would start an overlong one
  else if b < 0xC2 then (none, [.stray [b]])
  else if b < 0xE0 then wait 0xC0 1 0x80 0xBF
  else if b = 0xE0 then wait 0xE0 2 0xA0 0xBF
  else if b = 0xED then wait 0xE0 2 0x80 0x9F
  else if b < 0xF0 then wait 0xE0 2 0x80 0xBF
  else if b = 0xF0 then wait 0xF0 3 0x90 0xBF
  else if b < 0xF4 then wait 0xF0 3 0x80 0xBF
  else if b = 0xF4 then wait 0xF0 3 0x80 0x8F
  else (none, [.stray [b]])

/-- One byte: the character that is now open, and the pieces that are complete, newest first. A byte
that cannot continue the open character ends it as a stray run and is then taken on its own. -/
def step : Option Sequence → UInt8 → Option Sequence × List Piece
  | none, b => start b
  | some s, b =>
    if s.low ≤ b ∧ b ≤ s.high then
      let code := s.code * 64 + (b - 0x80).toNat
      if s.missing ≤ 1 then (none, [.char (Char.ofNat code)])
      else (some ⟨b :: s.seen, code, s.missing - 1, 0x80, 0xBF⟩, [])
    else
      let (next, pieces) := start b
      (next, pieces ++ [.stray s.seen.reverse])

/-- Reads on from an open character, with the pieces found so far, newest first. -/
def scan (found : List Piece) : Option Sequence → Bytes → List Piece
  | none, [] => found.reverse
  | some s, [] => (.stray s.seen.reverse :: found).reverse
  | s, b :: rest =>
    let (next, pieces) := step s b
    scan (pieces ++ found) next rest

/-- The pieces of a byte string, in order. -/
def pieces (bytes : Bytes) : List Piece := scan [] none bytes

/-- Whether the piece is a character. -/
def Piece.isChar : Piece → Bool
  | .char _ => true
  | .stray _ => false

/-- The character of a piece, if it is one. -/
def Piece.char? : Piece → Option Char
  | .char c => some c
  | .stray _ => none

/-- The character that stands for a piece; a stray run is shown as U+FFFD. -/
def Piece.shown : Piece → Char
  | .char c => c
  | .stray _ => '\uFFFD'

/-- The characters of a byte string that is well-formed UTF-8. -/
def chars? (bytes : Bytes) : Option (List Char) :=
  let all := pieces bytes
  if all.all Piece.isChar then some (all.filterMap Piece.char?) else none

/-- The text of a byte string that is well-formed UTF-8. -/
def text? (bytes : Bytes) : Option String := (chars? bytes).map String.ofList

/-- The text of any byte string, with a replacement character for each stray run. -/
def lossy (bytes : Bytes) : String := String.ofList ((pieces bytes).map Piece.shown)

end ToolingHost.Utf8
