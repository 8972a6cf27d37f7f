import ToolingHost.Decimal.Binary64
import ToolingHost.Toml.Value

/-! # The numbers that numerals stand for

A numeral keeps its spelling, and the number it stands for is exact. Who reads a document takes only
numbers of a certain size: integers that fit 128 bits, with or without a sign, and floating-point
numbers that do not round beyond the greatest finite one. Nothing is too small. -/

namespace ToolingHost.Toml

namespace Numeral

open ToolingHost.Decimal

/-- The value of a digit in a base up to 16. -/
def digitValue (c : Char) : Nat :=
  if c.isDigit then c.toNat - '0'.toNat
  else if 'a' ≤ c then c.toNat - 'a'.toNat + 10
  else c.toNat - 'A'.toNat + 10

/-- The number that digits write in a base. -/
def natural (base : Nat) (digits : List Char) : Nat :=
  digits.foldl (fun n c => n * base + digitValue c) 0

/-- A spelling without the underscores between digits. -/
def plain (spelling : String) : List Char := spelling.toList.filter (· != '_')

/-- The digits without the zeros before them. -/
def significant (digits : List Char) : List Char := digits.dropWhile (· == '0')

/-- How many digits an integer that is taken may have in any base. -/
def maxLength : Nat := 128

/-- Whether the number that digits write in a base is below a bound of at most `maxLength` bits. -/
def isBelow (bound base : Nat) (digits : List Char) : Bool :=
  let digits := significant digits
  digits.length ≤ maxLength && natural base digits < bound

/-- Whether the integer that a numeral without underscores stands for fits 128 bits, with or without
a sign. -/
def fitsInteger : List Char → Bool
  | '0' :: 'x' :: digits => isBelow (Nat.pow 2 128) 16 digits
  | '0' :: 'o' :: digits => isBelow (Nat.pow 2 128) 8 digits
  | '0' :: 'b' :: digits => isBelow (Nat.pow 2 128) 2 digits
  | '-' :: digits => isBelow (Nat.pow 2 127 + 1) 10 digits
  | '+' :: digits => isBelow (Nat.pow 2 128) 10 digits
  | digits => isBelow (Nat.pow 2 128) 10 digits

/-- The number of digits of an exponent beyond which its value does not matter any more: no text has
that many digits to make up for it. -/
def maxExponentLength : Nat := 18

/-- The exponent after its mark, or one with the same effect. -/
def exponent (chars : List Char) : Int :=
  let digits := significant (chars.dropWhile fun c => c == '+' || c == '-')
  let n : Nat :=
    if maxExponentLength < digits.length then Nat.pow 10 maxExponentLength
    else natural 10 digits
  if chars.head? = some '-' then -n else n

/-- The greatest number of digits before the point that a finite number has. -/
def maxDigits : Nat := 309

/-- Whether the number that digits write, times a power of ten, rounds to a finite one. Only numbers
with exactly `maxDigits` digits before the point have to be looked at closely. -/
def isFinite (digits : List Char) (exponent : Int) : Bool :=
  let digits := significant digits
  let length := digits.length + exponent
  if digits.isEmpty || length < maxDigits then true
  else if maxDigits < length then false
  else
    let scaled := natural 10 digits * Nat.pow 10 exponent.toNat
    (Binary64.ofFraction? scaled (Nat.pow 10 (-exponent).toNat)).isSome

/-- Whether the floating-point numeral without underscores stands for a number that rounds to a
finite one, or is one of the names for what is no finite number. -/
def fitsFloat (chars : List Char) : Bool :=
  let unsigned := chars.dropWhile fun c => c == '+' || c == '-'
  let digits := unsigned.takeWhile Char.isDigit
  let rest := unsigned.dropWhile Char.isDigit
  let (fraction, rest) := match rest with
    | '.' :: rest => (rest.takeWhile Char.isDigit, rest.dropWhile Char.isDigit)
    | rest => ([], rest)
  digits.isEmpty || isFinite (digits ++ fraction) (exponent (rest.drop 1) - fraction.length)

end Numeral

mutual

/-- Whether all numbers in a value are of a size that is taken. -/
def Value.isTaken : Value → Bool
  | .integer spelling => Numeral.fitsInteger (Numeral.plain spelling)
  | .float spelling => Numeral.fitsFloat (Numeral.plain spelling)
  | .array items => areTaken items
  | .table _ members => Members.areTaken members
  | .tables items => Members.allTaken items
  | .string _ | .boolean _ | .dateTime _ => true

/-- Whether all numbers in a list of values are of a size that is taken. -/
def areTaken : List Value → Bool
  | [] => true
  | v :: rest => v.isTaken && areTaken rest

/-- Whether all numbers in the members of a table are of a size that is taken. -/
def Members.areTaken : List (String × Value) → Bool
  | [] => true
  | (_, v) :: rest => v.isTaken && Members.areTaken rest

/-- Whether all numbers in a list of tables are of a size that is taken. -/
def Members.allTaken : List (List (String × Value)) → Bool
  | [] => true
  | members :: rest => Members.areTaken members && Members.allTaken rest

end

end ToolingHost.Toml
