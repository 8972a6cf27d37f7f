import ToolingHost.Text.Shown

/-! # Log records and their lines

What the program reports about its work is a record, which is kept as a value and written as a
line. -/

/-! ## Log records

A record has a level, the part of the program it comes from, a message, and named fields. -/

namespace ToolingHost.Log

/-- How important a record is; the most important level comes first. -/
inductive Level where
  /-- Something failed. -/
  | error
  /-- Something looks wrong. -/
  | warn
  /-- The normal course of events. -/
  | info
  /-- Details for a developer. -/
  | debug
  /-- Everything else. -/
  | trace
  deriving DecidableEq, Repr

/-- The name of a level. -/
def Level.name : Level → String
  | .error => "ERROR"
  | .warn => "WARN"
  | .info => "INFO"
  | .debug => "DEBUG"
  | .trace => "TRACE"

/-- How verbose a level is: records are kept up to a bound on this number. -/
def Level.verbosity : Level → Nat
  | .error => 1
  | .warn => 2
  | .info => 3
  | .debug => 4
  | .trace => 5

/-- The value of a field. -/
inductive FieldValue where
  /-- A text, shown in quotes. -/
  | text (s : String)
  /-- A value that is shown as it is. -/
  | shown (s : String)
  deriving DecidableEq, Repr

/-- The characters of a value, without quotes. -/
def FieldValue.raw : FieldValue → String
  | .text s => s
  | .shown s => s

/-- A log record. -/
structure Record where
  /-- How important it is. -/
  level : Level
  /-- The part of the program that it comes from. -/
  target : String
  /-- What happened. -/
  message : String
  /-- Further values, in the order in which they are shown. -/
  fields : List (String × FieldValue)
  deriving DecidableEq, Repr

/-! ## Log lines

A record is written as a line: a time stamp, the level in a column of its own, the part of the
program, the message, and the fields. Characters of a message that a terminal would act on are
escaped. -/

/-- The width of the column of levels. -/
def levelWidth : Nat := 5

/-- A text with blanks before it, at least `width` characters long. -/
def alignRight (width : Nat) (s : String) : String :=
  String.ofList (List.replicate (width - s.length) ' ') ++ s

/-- Whether a terminal would act on a character. -/
def isTerminalControl (c : Char) : Bool :=
  let n := c.toNat
  n == 0x1b || n == 0x07 || n == 0x08 || n == 0x0c || (0x7f ≤ n && n ≤ 0x9f)

/-- A number in two hexadecimal digits. -/
def twoDigits (n : Nat) : List Char := [Nat.digitChar (n / 16), Nat.digitChar (n % 16)]

/-- A character of a message as it is written: one that a terminal would act on is written by its
number, in braces if it is outside ASCII. -/
def messageChar (c : Char) : List Char :=
  let digits := twoDigits c.toNat
  if !isTerminalControl c then [c]
  else if c.toNat < 0x80 then ['\\', 'x'] ++ digits
  else ['\\', 'u', '\x7b'] ++ digits ++ ['\x7d']

/-- A message as it is written. -/
def messageText (message : String) : String := String.ofList (message.toList.flatMap messageChar)

/-- The value of a field as it is written. -/
def FieldValue.written : FieldValue → String
  | .text s => Text.Quoted.ofString s
  | .shown s => s

/-- A field as it is written. -/
def fieldText (field : String × FieldValue) : String := field.1 ++ "=" ++ field.2.written

/-- The line of a record, without a line break at its end. -/
def Record.line (r : Record) (stamp : String) : String :=
  stamp ++ " " ++ alignRight levelWidth r.level.name ++ " " ++ r.target ++ ": " ++
    " ".intercalate (messageText r.message :: r.fields.map fieldText)

/-- Ordinary characters are written as they are. -/
theorem messageChar_of_not_isTerminalControl {c : Char} (h : isTerminalControl c = false) :
    messageChar c = [c] := by
  simp [messageChar, h]

end ToolingHost.Log
