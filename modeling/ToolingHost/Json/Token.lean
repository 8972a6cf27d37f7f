import ToolingHost.Json.Value

/-! # Reading the tokens of JSON

A JSON text is cut into tokens: marks, quoted texts, and words, which are numerals and the three
names. -/

/-! ## The numerals of JSON

A numeral is an optional minus sign, an integer part without needless zeros, and an optional
fraction and exponent. Without fraction and exponent it is an exact integer if that fits 64 bits;
the numeral `-0` and every other one is a floating-point number, built from the leading digits that
fit 64 bits and a power of ten. -/

namespace ToolingHost.Json.Number

open ToolingHost.Decimal

/-- The greatest integer that fits 64 bits. -/
def maxUnsigned : Nat := Nat.pow 2 64 - 1

/-- The value of a decimal digit. -/
def digitValue (c : Char) : Nat := c.toNat - '0'.toNat

/-- Appends digits to a significand as long as it fits 64 bits; gives the significand and the digits
that did not fit. -/
def absorb (significand : Nat) : List Char → Nat × List Char
  | [] => (significand, [])
  | c :: rest =>
    let next := significand * 10 + digitValue c
    if maxUnsigned < next then (significand, c :: rest) else absorb next rest

/-- The value of a list of decimal digits as far as it fits 64 bits; the first number that does not
fit stands for all greater ones too. -/
def digitsValue (digits : List Char) : Nat :=
  digits.foldl (fun n c => min (maxUnsigned + 1) (n * 10 + digitValue c)) 0

/-- A number from the parts of a numeral with a fraction or an exponent, or of an integer beyond 64
bits. Integer digits that do not fit count as powers of ten; fraction digits that do not fit are
dropped. -/
def ofParts? (negative : Bool) (integer fraction : List Char) (exponent : Int) : Option Number :=
  let (significand, dropped) := absorb 0 integer
  let (significand', left) := absorb significand fraction
  let taken := fraction.length - left.length
  (Binary64.ofScaled? negative significand' (dropped.length - taken + exponent)).map .double

/-- An integer numeral. -/
def ofInteger? (negative : Bool) (digits : List Char) : Option Number :=
  let n := digitsValue digits
  if negative then
    if n = 0 ∨ Nat.pow 2 63 < n then ofParts? true digits [] 0 else some (.int (-n))
  else if maxUnsigned < n then ofParts? false digits [] 0
  else some (.int n)

/-- Whether these are the digits of an integer part: at least one, and no zero before others. -/
def isIntegerPart : List Char → Bool
  | [] => false
  | '0' :: rest => rest.isEmpty
  | _ => true

/-- An exponent after its mark: an optional sign and at least one digit. -/
def exponent? (chars : List Char) : Option Int :=
  let (negative, digits) := match chars with
    | '+' :: rest => (false, rest)
    | '-' :: rest => (true, rest)
    | _ => (false, chars)
  if digits.isEmpty || !digits.all Char.isDigit then none
  else some (if negative then -(digitsValue digits) else digitsValue digits)

/-- The number that a list of characters spells, all of it. -/
def parse? (chars : List Char) : Option Number :=
  let (negative, rest) := match chars with
    | '-' :: rest => (true, rest)
    | _ => (false, chars)
  let integer := rest.takeWhile Char.isDigit
  let rest := rest.dropWhile Char.isDigit
  if !isIntegerPart integer then none
  else match rest with
    | [] => ofInteger? negative integer
    | '.' :: rest =>
      let fraction := rest.takeWhile Char.isDigit
      if fraction.isEmpty then none
      else match rest.dropWhile Char.isDigit with
        | [] => ofParts? negative integer fraction 0
        | mark :: rest =>
          if mark = 'e' ∨ mark = 'E' then
            (exponent? rest).bind (ofParts? negative integer fraction)
          else none
    | mark :: rest =>
      if mark = 'e' ∨ mark = 'E' then (exponent? rest).bind (ofParts? negative integer [])
      else none

end ToolingHost.Json.Number

/-! ## The tokens of JSON

The lexer takes one character at a time. Words (numerals and the three names) are the longest runs
of the characters that can stand in one, so a run that spells nothing is refused as a whole. -/

namespace ToolingHost.Json

/-- A token. -/
inductive Token where
  /-- `[` -/
  | openArray
  /-- `]` -/
  | closeArray
  /-- An opening brace. -/
  | openObject
  /-- A closing brace. -/
  | closeObject
  /-- `,` -/
  | comma
  /-- `:` -/
  | colon
  /-- A quoted text. -/
  | text (s : String)
  /-- A name or a numeral. -/
  | scalar (v : Value)

namespace Token

/-- What the lexer is in the middle of; texts and words are held newest character first. -/
inductive State where
  /-- Between tokens. -/
  | between
  /-- In a word. -/
  | word (chars : List Char)
  /-- In a quoted text. -/
  | quoted (chars : List Char)
  /-- After a backslash. -/
  | escape (chars : List Char)
  /-- In the four hexadecimal digits of an escape; `lead` is the first half of a surrogate pair. -/
  | hex (chars : List Char) (lead : Option Nat) (missing : Nat) (code : Nat)
  /-- After the first half of a surrogate pair, before the backslash of the second. -/
  | pairEscape (chars : List Char) (lead : Nat)
  /-- After that backslash, before its `u`. -/
  | pairMark (chars : List Char) (lead : Nat)

/-- Whether a character may stand in a word. -/
def isWordChar (c : Char) : Bool :=
  c.isAlphanum || c == '+' || c == '-' || c == '.'

/-- The value that a word spells. -/
def ofWord? (chars : List Char) : Option Value :=
  if chars = ['n', 'u', 'l', 'l'] then some .null
  else if chars = ['t', 'r', 'u', 'e'] then some (.bool true)
  else if chars = ['f', 'a', 'l', 's', 'e'] then some (.bool false)
  else (Number.parse? chars).map .number

/-- The value of a hexadecimal digit. -/
def hexValue? (c : Char) : Option Nat :=
  if c.isDigit then some (c.toNat - '0'.toNat)
  else if 'a' ≤ c ∧ c ≤ 'f' then some (c.toNat - 'a'.toNat + 10)
  else if 'A' ≤ c ∧ c ≤ 'F' then some (c.toNat - 'A'.toNat + 10)
  else none

/-- The character that a one-letter escape stands for. -/
def escaped? : Char → Option Char
  | '"' => some '"'
  | '\\' => some '\\'
  | '/' => some '/'
  | 'b' => some '\x08'
  | 'f' => some '\x0c'
  | 'n' => some '\n'
  | 'r' => some '\r'
  | 't' => some '\t'
  | _ => none

/-- A character between tokens. -/
def between? (c : Char) : Option (State × List Token) :=
  if c = ' ' ∨ c = '\n' ∨ c = '\t' ∨ c = '\r' then some (.between, [])
  else if c = '[' then some (.between, [.openArray])
  else if c = ']' then some (.between, [.closeArray])
  else if c = '\x7b' then some (.between, [.openObject])
  else if c = '\x7d' then some (.between, [.closeObject])
  else if c = ',' then some (.between, [.comma])
  else if c = ':' then some (.between, [.colon])
  else if c = '"' then some (.quoted [], [])
  else if isWordChar c then some (.word [c], [])
  else none

/-- After the four digits of an escape: a character, the first half of a pair, or the character of a
pair. Halves that do not pair up are refused. -/
def afterHex? (chars : List Char) (lead : Option Nat) (code : Nat) : Option (State × List Token) :=
  match lead with
  | some high =>
    if 0xDC00 ≤ code ∧ code ≤ 0xDFFF then
      some (.quoted (Char.ofNat (0x10000 + (high - 0xD800) * 0x400 + (code - 0xDC00)) :: chars), [])
    else none
  | none =>
    if 0xD800 ≤ code ∧ code ≤ 0xDBFF then some (.pairEscape chars code, [])
    else if 0xDC00 ≤ code ∧ code ≤ 0xDFFF then none
    else some (.quoted (Char.ofNat code :: chars), [])

/-- One character: the next state and the tokens that are complete, in order; `none` if no token can
hold it. -/
def step? : State → Char → Option (State × List Token)
  | .between, c => between? c
  | .word chars, c =>
    if isWordChar c then some (.word (c :: chars), [])
    -- the character ends the word and is a token, or starts one
    else match ofWord? chars.reverse, between? c with
      | some v, some (next, tokens) => some (next, .scalar v :: tokens)
      | _, _ => none
  | .quoted chars, c =>
    if c = '"' then some (.between, [.text (String.ofList chars.reverse)])
    else if c = '\\' then some (.escape chars, [])
    else if c.toNat < 0x20 then none
    else some (.quoted (c :: chars), [])
  | .escape chars, c =>
    if c = 'u' then some (.hex chars none 4 0, [])
    else (escaped? c).map fun e => (.quoted (e :: chars), [])
  | .hex chars lead missing code, c =>
    (hexValue? c).bind fun digit =>
      if missing ≤ 1 then afterHex? chars lead (code * 16 + digit)
      else some (.hex chars lead (missing - 1) (code * 16 + digit), [])
  | .pairEscape chars lead, c => if c = '\\' then some (.pairMark chars lead, []) else none
  | .pairMark chars lead, c => if c = 'u' then some (.hex chars (some lead) 4 0, []) else none

/-- Reads on from a state, with the tokens found so far, newest first. -/
def scan? (found : List Token) : State → List Char → Option (List Token)
  | .between, [] => some found.reverse
  | .word chars, [] => (ofWord? chars.reverse).map fun v => (.scalar v :: found).reverse
  | _, [] => none
  | state, c :: rest =>
    match step? state c with
    | none => none
    | some (next, tokens) => scan? (tokens.reverse ++ found) next rest

end Token

end ToolingHost.Json
