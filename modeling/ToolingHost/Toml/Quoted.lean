/-! # Quoted texts of TOML

A text is written in double quotes with escapes or in single quotes without; in triple quotes it may
run over several lines. The reader takes one character at a time. -/

namespace ToolingHost.Toml

/-- A kind of quoted text. -/
structure Quotes where
  /-- The quote. -/
  mark : Char
  /-- Whether the text is in triple quotes. -/
  triple : Bool
  deriving DecidableEq, Repr

/-- Whether a backslash starts an escape: in double quotes only. -/
def Quotes.escapes (q : Quotes) : Bool := q.mark == '"'

/-- Whether a character may stand in a text or a comment as it is, line ends apart. -/
def isPlainChar (c : Char) : Bool := c == '\t' || (0x20 ≤ c.toNat && c.toNat != 0x7F)

/-- The value of a hexadecimal digit. -/
def hexDigit? (c : Char) : Option Nat :=
  if c.isDigit then some (c.toNat - '0'.toNat)
  else if 'a' ≤ c ∧ c ≤ 'f' then some (c.toNat - 'a'.toNat + 10)
  else if 'A' ≤ c ∧ c ≤ 'F' then some (c.toNat - 'A'.toNat + 10)
  else none

/-- The character that a one-letter escape stands for. -/
def escapedChar? : Char → Option Char
  | 'b' => some '\x08'
  | 't' => some '\t'
  | 'n' => some '\n'
  | 'f' => some '\x0c'
  | 'r' => some '\r'
  | 'e' => some '\x1b'
  | '"' => some '"'
  | '\\' => some '\\'
  | _ => none

/-- The number of digits of a hexadecimal escape. -/
def hexLength? : Char → Option Nat
  | 'x' => some 2
  | 'u' => some 4
  | 'U' => some 8
  | _ => none

/-- The character with a code point; surrogates and numbers beyond the last character have none. -/
def charOfCode? (code : Nat) : Option Char :=
  if code < 0xD800 ∨ (0xDFFF < code ∧ code ≤ 0x10FFFF) then some (Char.ofNat code) else none

namespace Quoted

/-- What the reader is in the middle of. -/
inductive State where
  /-- Between characters. -/
  | plain
  /-- After a carriage return, which only a line feed may follow. -/
  | carriage
  /-- After a backslash. -/
  | escape
  /-- In the digits of a hexadecimal escape. -/
  | hex (missing code : Nat)
  /-- In the white space after a backslash that joins lines; `ended` says that a line has ended. -/
  | joining (ended : Bool)
  /-- There, after a carriage return. -/
  | joiningCarriage
  /-- After some quotes in a row in a text in triple quotes. -/
  | quotes (count : Nat)
  deriving DecidableEq, Repr

/-- What to do after a character; the text so far is held newest character first. -/
inductive Step where
  /-- Go on. -/
  | more (state : State) (text : List Char)
  /-- The text is complete with this character. -/
  | closed (text : List Char)
  /-- The text was complete before this character. -/
  | closedBefore (text : List Char)

/-- A character that does not belong to an escape or to a run of quotes. -/
def plainStep? (q : Quotes) (text : List Char) (c : Char) : Option Step :=
  if c = q.mark then some (if q.triple then .more (.quotes 1) text else .closed text)
  else if c = '\\' ∧ q.escapes then some (.more .escape text)
  else if c = '\n' then if q.triple then some (.more .plain (c :: text)) else none
  else if c = '\r' then if q.triple then some (.more .carriage text) else none
  else if isPlainChar c then some (.more .plain (c :: text))
  else none

/-- A character after a backslash. -/
def escapeStep? (q : Quotes) (text : List Char) (c : Char) : Option Step :=
  if q.triple ∧ (c = ' ' ∨ c = '\t') then some (.more (.joining false) text)
  else if q.triple ∧ c = '\n' then some (.more (.joining true) text)
  else if q.triple ∧ c = '\r' then some (.more .joiningCarriage text)
  else match hexLength? c with
    | some digits => some (.more (.hex digits 0) text)
    | none => (escapedChar? c).map fun e => .more .plain (e :: text)

/-- One character. -/
def step? (q : Quotes) (text : List Char) : State → Char → Option Step
  | .plain, c => plainStep? q text c
  | .carriage, c => if c = '\n' then some (.more .plain ('\n' :: '\r' :: text)) else none
  | .escape, c => escapeStep? q text c
  | .hex missing code, c =>
    (hexDigit? c).bind fun digit =>
      if missing ≤ 1 then (charOfCode? (code * 16 + digit)).map fun e => .more .plain (e :: text)
      else some (.more (.hex (missing - 1) (code * 16 + digit)) text)
  | .joining ended, c =>
    if c = ' ' ∨ c = '\t' then some (.more (.joining ended) text)
    else if c = '\n' then some (.more (.joining true) text)
    else if c = '\r' then some (.more .joiningCarriage text)
    else if ended then plainStep? q text c
    else none
  | .joiningCarriage, c => if c = '\n' then some (.more (.joining true) text) else none
  | .quotes count, c =>
    if c = q.mark then
      if count < 5 then some (.more (.quotes (count + 1)) text)
      else some (.closedBefore (q.mark :: q.mark :: text))
    else if count < 3 then plainStep? q (List.replicate count q.mark ++ text) c
    else some (.closedBefore (List.replicate (count - 3) q.mark ++ text))

/-- Reads on from a state; gives the text and what follows its closing quotes. -/
def scan? (q : Quotes) (text : List Char) : State → List Char → Option (String × List Char)
  | .quotes count, [] =>
    if count < 3 then none
    else some (String.ofList (List.replicate (count - 3) q.mark ++ text).reverse, [])
  | _, [] => none
  | state, c :: rest =>
    match step? q text state c with
    | none => none
    | some (.more next text) => scan? q text next rest
    | some (.closed text) => some (String.ofList text.reverse, rest)
    | some (.closedBefore text) => some (String.ofList text.reverse, c :: rest)

/-- Reads a text in single quotes of either kind, after its opening quote. -/
def line? (mark : Char) (chars : List Char) : Option (String × List Char) :=
  scan? ⟨mark, false⟩ [] .plain chars

/-- Reads a text in triple quotes, after the opening ones. A line end right after them is left out.
-/
def block? (mark : Char) (chars : List Char) : Option (String × List Char) :=
  let chars := match chars with
    | '\n' :: rest => rest
    | '\r' :: '\n' :: rest => rest
    | _ => chars
  scan? ⟨mark, true⟩ [] .plain chars

/-- Reads a text of any kind, after its first quote. -/
def any? (mark : Char) : List Char → Option (String × List Char)
  | a :: b :: rest =>
    if a = mark ∧ b = mark then block? mark rest else line? mark (a :: b :: rest)
  | chars => line? mark chars

end Quoted

end ToolingHost.Toml
