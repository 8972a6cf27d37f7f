import ToolingHost.Toml.Value

/-! # Unquoted values of TOML

Truth values, numbers and dates. Each kind is a condition on the spelling: where digits may be
separated by underscores, where a leading zero may stand, and which dates and times there are. -/

namespace ToolingHost.Toml.Scalar

/-- Digits with single underscores between them; `after` says that the last character was a digit.
-/
def digitsFrom (isDigit : Char → Bool) : (after : Bool) → List Char → Bool
  | after, [] => after
  | after, c :: rest =>
    if isDigit c then digitsFrom isDigit true rest
    else c == '_' && after && digitsFrom isDigit false rest

/-- A nonempty run of digits with single underscores between them. -/
def isDigits (isDigit : Char → Bool) (chars : List Char) : Bool := digitsFrom isDigit false chars

/-- A decimal integer without sign: no zero before other digits. -/
def isDecimal (chars : List Char) : Bool :=
  isDigits Char.isDigit chars && (chars == ['0'] || chars.head? != some '0')

/-- The spelling without a sign, and whether there was one. -/
def unsigned : List Char → List Char × Bool
  | '+' :: rest => (rest, true)
  | '-' :: rest => (rest, true)
  | chars => (chars, false)

/-- An integer: decimal with an optional sign, or in base 16, 8 or 2 with its mark. -/
def isInteger (chars : List Char) : Bool :=
  let hex (c : Char) : Bool := c.isDigit || ('a' ≤ c && c ≤ 'f') || ('A' ≤ c && c ≤ 'F')
  match unsigned chars with
  | ('0' :: 'x' :: rest, signed) => !signed && isDigits hex rest
  | ('0' :: 'o' :: rest, signed) => !signed && isDigits (fun c => '0' ≤ c && c ≤ '7') rest
  | ('0' :: 'b' :: rest, signed) => !signed && isDigits (fun c => c == '0' || c == '1') rest
  | (rest, _) => isDecimal rest

/-- An exponent after its mark. -/
def isExponent (chars : List Char) : Bool := isDigits Char.isDigit (unsigned chars).1

/-- Whether a character marks an exponent. -/
def isExponentMark (c : Char) : Bool := c == 'e' || c == 'E'

/-- A floating-point number: a decimal integer with a fraction, an exponent or both, or one of the
two names, with an optional sign. -/
def isFloat (chars : List Char) : Bool :=
  let body := (unsigned chars).1
  if body = ['i', 'n', 'f'] ∨ body = ['n', 'a', 'n'] then true
  else
    let isPart (c : Char) : Bool := c != '.' && !isExponentMark c
    isDecimal (body.takeWhile isPart) &&
      match body.dropWhile isPart with
      | [] => false
      | '.' :: rest =>
        isDigits Char.isDigit (rest.takeWhile fun c => !isExponentMark c) &&
          match rest.dropWhile fun c => !isExponentMark c with
          | [] => true
          | _ :: exponent => isExponent exponent
      | _ :: exponent => isExponent exponent

/-- The number that two digits spell. -/
def twoDigits? : List Char → Option (Nat × List Char)
  | a :: b :: rest =>
    if a.isDigit ∧ b.isDigit then
      some ((a.toNat - '0'.toNat) * 10 + (b.toNat - '0'.toNat), rest)
    else none
  | _ => none

/-- What follows a given character. -/
def after? (mark : Char) : List Char → Option (List Char)
  | c :: rest => if c = mark then some rest else none
  | [] => none

/-- Whether a year has a 29th of February. -/
def isLeapYear (year : Nat) : Bool :=
  year % 4 == 0 && (year % 100 != 0 || year % 400 == 0)

/-- The number of days of a month. -/
def daysOf (year month : Nat) : Nat :=
  if month = 2 then if isLeapYear year then 29 else 28
  else if month = 4 ∨ month = 6 ∨ month = 9 ∨ month = 11 then 30
  else 31

/-- What follows a date that exists. -/
def date? (chars : List Char) : Option (List Char) := do
  let (century, rest) ← twoDigits? chars
  let (years, rest) ← twoDigits? rest
  let (month, rest) ← twoDigits? (← after? '-' rest)
  let (day, rest) ← twoDigits? (← after? '-' rest)
  if 1 ≤ month ∧ month ≤ 12 ∧ 1 ≤ day ∧ day ≤ daysOf (century * 100 + years) month then some rest
  else none

/-- What follows a fraction of a second, if there is one. -/
def fraction? (chars : List Char) : Option (List Char) :=
  match after? '.' chars with
  | none => some chars
  | some rest =>
    if (rest.takeWhile Char.isDigit).isEmpty then none else some (rest.dropWhile Char.isDigit)

/-- What follows a time of day; the seconds may be left out, and a leap second is allowed. -/
def time? (chars : List Char) : Option (List Char) := do
  let (hour, rest) ← twoDigits? chars
  let (minute, rest) ← twoDigits? (← after? ':' rest)
  if 24 ≤ hour ∨ 60 ≤ minute then none
  else
    match after? ':' rest with
    | none => some rest
    | some rest =>
      let (second, rest) ← twoDigits? rest
      if 60 < second then none else fraction? rest

/-- Whether this is a distance from universal time, or nothing. -/
def isOffset : List Char → Bool
  | [] => true
  | 'Z' :: rest => rest.isEmpty
  | 'z' :: rest => rest.isEmpty
  | sign :: rest =>
    (sign == '+' || sign == '-') &&
      match twoDigits? rest with
      | some (hour, ':' :: rest) =>
        match twoDigits? rest with
        | some (minute, []) => hour < 24 && minute < 60
        | _ => false
      | _ => false

/-- Whether a character separates a date from a time. -/
def isDateMark (c : Char) : Bool := c == 'T' || c == 't' || c == ' '

/-- A date, a time, or both, the last with an optional distance from universal time. -/
def isDateTime (chars : List Char) : Bool :=
  match date? chars with
  | some [] => true
  | some (mark :: rest) =>
    isDateMark mark &&
      match time? rest with
      | some offset => isOffset offset
      | none => false
  | none => time? chars == some []

/-- The value that a spelling stands for. -/
def ofChars? (chars : List Char) : Option Value :=
  if chars = ['t', 'r', 'u', 'e'] then some (.boolean true)
  else if chars = ['f', 'a', 'l', 's', 'e'] then some (.boolean false)
  else if isInteger chars then some (.integer (String.ofList chars))
  else if isFloat chars then some (.float (String.ofList chars))
  else if isDateTime chars then some (.dateTime (String.ofList chars))
  else none

/-- Whether a character may stand in an unquoted value. -/
def isScalarChar (c : Char) : Bool :=
  !(c == ' ' || c == '\t' || c == '\n' || c == '\r' || c == ',' || c == ']' || c == '\x7d' ||
    c == '#')

/-- Reads an unquoted value. A date may be separated from its time by a single space. -/
def read? (chars : List Char) : Option (Value × List Char) :=
  let word := chars.takeWhile isScalarChar
  let rest := chars.dropWhile isScalarChar
  match date? word, rest with
  | some [], ' ' :: c :: more =>
    if c.isDigit then
      let time := (c :: more).takeWhile isScalarChar
      (ofChars? (word ++ ' ' :: time)).map fun v => (v, (c :: more).dropWhile isScalarChar)
    else (ofChars? word).map fun v => (v, rest)
  | _, _ => (ofChars? word).map fun v => (v, rest)

end ToolingHost.Toml.Scalar
