import ToolingHost.Bytes
import ToolingHost.Text.Classes

/-! # Texts as they are shown

Diagnostics show a text in quotes, with escapes, so that nothing in it is overlooked. The messages
about arguments show it as it stands, less what would steer a terminal. -/

/-! ## Texts in quotes for diagnostics

A text is shown between double quotes, with an escape for each character that could not be seen or
would be mistaken for something else. Byte strings are shown in the same way, with `\xHH` for each
byte that belongs to no character. -/

namespace ToolingHost.Text.Quoted

/-- The digits of a natural number in lower-case hexadecimal. -/
def hexDigits (n : Nat) : List Char := Nat.toDigits 16 n

/-- A character as it stands between the quotes. -/
def escapeChar (c : Char) : List Char :=
  if c = '\x00' then ['\\', '0']
  else if c = '\t' then ['\\', 't']
  else if c = '\n' then ['\\', 'n']
  else if c = '\r' then ['\\', 'r']
  else if c = '"' then ['\\', '"']
  else if c = '\\' then ['\\', '\\']
  else if isCombining c || !isPrintable c then
    ['\\', 'u', '\x7b'] ++ hexDigits c.toNat ++ ['\x7d']
  else [c]

/-- A byte outside any character as it stands between the quotes. -/
def escapeByte (b : UInt8) : List Char :=
  let digit (n : Nat) : Char := (Nat.digitChar n).toUpper
  ['\\', 'x', digit (b.toNat / 16), digit (b.toNat % 16)]

/-- A text in quotes. -/
def ofChars (chars : List Char) : String :=
  String.ofList ('"' :: (chars.flatMap escapeChar ++ ['"']))

/-- A text in quotes. -/
def ofString (s : String) : String := ofChars s.toList

/-- A byte string in quotes. -/
def ofBytes (bytes : Bytes) : String :=
  let piece : Utf8.Piece → List Char
    | .char c => escapeChar c
    | .stray run => run.flatMap escapeByte
  String.ofList ('"' :: ((Utf8.pieces bytes).flatMap piece ++ ['"']))

/-- A list of texts in quotes. -/
def ofList (texts : List String) : String :=
  "[" ++ ", ".intercalate (texts.map ofString) ++ "]"

end ToolingHost.Text.Quoted

/-! ## Control sequences

A text that is not shown on a terminal is shown without the sequences that steer one: those that
start with an escape character, and the control characters outside them. White space of ASCII is no
control here, and ends a sequence unless that holds a text of its own. -/

namespace ToolingHost.Text.ControlSequence

/-- Where in a control sequence a text is. -/
inductive State where
  /-- In no sequence. -/
  | outside
  /-- After the escape character. -/
  | escape
  /-- After an escape character and further characters that do not end the sequence. -/
  | escapeMore
  /-- In the parameters of a control sequence. -/
  | parameters
  /-- In a command to the operating system. -/
  | command
  /-- At the beginning of a string for a device. -/
  | deviceStart
  /-- In the parameters of a string for a device. -/
  | deviceParameters
  /-- Behind the parameters of a string for a device. -/
  | deviceMore
  /-- In a string that has to be ended expressly. -/
  | string
  deriving DecidableEq, Repr

/-- The characters that break off any sequence. -/
def isCancel (c : Char) : Bool := c == '\x18' || c == '\x1a'

/-- The character that starts a sequence, and breaks off the one before. -/
def escape : Char := '\x1b'

/-- Whether a character lies between two others. -/
def between (low high c : Char) : Bool := low ≤ c && c ≤ high

/-- The state after the character that follows an escape character. -/
def afterEscape (c : Char) : State :=
  if c = '[' then .parameters
  else if c = ']' then .command
  else if c = 'P' then .deviceStart
  else if c = 'X' ∨ c = '^' ∨ c = '_' then .string
  else if between ' ' '/' c then .escapeMore
  else if between '0' '~' c then .outside
  else .escape

/-- The state after a character of ASCII at the beginning of a string for a device, or behind, which
stays as it is unless the character says otherwise. -/
def afterDevice (state : State) (c : Char) : State :=
  if between '@' '~' c then .string
  else
    match state with
    | .deviceMore => if between '0' '?' c then .string else state
    | .deviceParameters =>
      if between '<' '?' c then .string else if between ' ' '/' c then .deviceMore else state
    | _ =>
      if between '0' '?' c then .deviceParameters
      else if between ' ' '/' c then .deviceMore
      else state

/-- The state after a character of ASCII that is not shown. -/
def next (state : State) (c : Char) : State :=
  if isCancel c then .outside
  else if c = escape then .escape
  else
    match state with
    | .outside => .outside
    | .escape => afterEscape c
    | .escapeMore => if between '0' '~' c then .outside else state
    | .parameters => if between '@' '~' c then .outside else state
    | .command => if c = '\x07' then .outside else state
    | .deviceStart | .deviceParameters | .deviceMore => afterDevice state c
    | .string => .string

/-- Whether a sequence lets control characters pass. -/
def passesControls : State → Bool
  | .outside | .escape | .escapeMore | .parameters => true
  | .command | .deviceStart | .deviceParameters | .deviceMore | .string => false

/-- White space of ASCII other than the space itself. -/
def isSpacing (c : Char) : Bool := c == '\t' || c == '\n' || c == '\x0c' || c == '\r'

/-- Whether a character of ASCII is shown. -/
def isShown (state : State) (c : Char) : Bool :=
  if isSpacing c then passesControls state else state == .outside && between ' ' '~' c

/-- The byte that ends a string; it may be part of a character outside ASCII. -/
def terminator : UInt8 := 0x9C

/-- Whether a character outside ASCII ends a string. -/
def endsString (c : Char) : Bool := (String.utf8EncodeChar c).contains terminator

/-- The characters that are shown, read from a state on. -/
def stripFrom : State → List Char → List Char
  | _, [] => []
  | state, c :: rest =>
    if c.toNat < 0x80 then
      if isShown state c then c :: stripFrom .outside rest else stripFrom (next state c) rest
    else if state = .outside then c :: stripFrom .outside rest
    else if state = .string ∧ endsString c then stripFrom .outside rest
    else stripFrom state rest

/-- A text without control sequences. -/
def strip (s : String) : String := String.ofList (stripFrom .outside s.toList)

/-- What stands outside control sequences and holds no control stays as it is. -/
theorem stripFrom_of_forall_shown {chars : List Char}
    (h : ∀ c ∈ chars, isShown .outside c = true) : stripFrom .outside chars = chars := by
  induction chars with
  | nil => rfl
  | cons c rest ih =>
    have hc := h c (by simp)
    have hr := ih fun d hd => h d (by simp [hd])
    simp [stripFrom, hc, hr]

end ToolingHost.Text.ControlSequence
