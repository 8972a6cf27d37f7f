import ToolingHost.Json.Value
import ToolingHost.Decimal.Shortest
import ToolingHost.Bytes

/-! # Writing JSON

Values are written without spaces, members in the order in which the object holds them. In texts
only the quote, the backslash and the control characters below `U+0020` are escaped. -/

namespace ToolingHost.Json

/-- Floating-point numbers are positional from `10 ^ -5` up to below `10 ^ 16`, integral ones end in
`.0`, and exponents carry their sign. -/
def numberLayout : Decimal.Layout := ⟨-4, 16, ".0", "e", "+"⟩

/-- A hexadecimal digit in lower case. -/
def hexDigit (n : Nat) : Char :=
  if n < 10 then Char.ofNat ('0'.toNat + n) else Char.ofNat ('a'.toNat + (n - 10))

/-- The written form of one character of a text. -/
def escapeChar (c : Char) : List Char :=
  if c = '"' then ['\\', '"']
  else if c = '\\' then ['\\', '\\']
  else if c = '\x08' then ['\\', 'b']
  else if c = '\x0c' then ['\\', 'f']
  else if c = '\n' then ['\\', 'n']
  else if c = '\r' then ['\\', 'r']
  else if c = '\t' then ['\\', 't']
  else if c.toNat < 0x20 then
    ['\\', 'u', '0', '0', hexDigit (c.toNat / 16), hexDigit (c.toNat % 16)]
  else [c]

/-- A text in quotes. -/
def quote (s : String) : String :=
  String.ofList ('"' :: (s.toList.flatMap escapeChar ++ ['"']))

/-- The written form of a number. -/
def Number.render : Number → String
  | .int n => toString n
  | .double x => numberLayout.render x

mutual

/-- Appends the written form of a value to a text. -/
def Value.write (out : String) : Value → String
  | .null => out ++ "null"
  | .bool b => out ++ (if b then "true" else "false")
  | .number n => out ++ n.render
  | .string s => out ++ quote s
  | .array items => writeItems (out ++ "[") true items ++ "]"
  | .object members => writeMembers (out ++ "\x7b") true members ++ "\x7d"

/-- Appends the items of an array, with a comma before all but the first. -/
def writeItems (out : String) (first : Bool) : List Value → String
  | [] => out
  | v :: rest => writeItems (v.write (if first then out else out ++ ",")) false rest

/-- Appends the members of an object, with a comma before all but the first. -/
def writeMembers (out : String) (first : Bool) : List (String × Value) → String
  | [] => out
  | (key, v) :: rest =>
    let out := if first then out else out ++ ","
    writeMembers (v.write (out ++ quote key ++ ":")) false rest

end

/-- The written form of a value. -/
def Value.render (v : Value) : String := v.write ""

/-- The written form of a value as bytes. -/
def Value.toBytes (v : Value) : Bytes := Bytes.ofString v.render

end ToolingHost.Json
