import ToolingHost.Decimal.Binary64
import ToolingHost.Ordered

/-! # JSON values

The values that messages are made of. Integers that fit 64 bits, signed or unsigned, are kept exact;
every other number is a floating-point number. An object is a list of members; the objects that the
reader builds hold each key once, in the order of the keys (`Ordered`). -/

namespace ToolingHost.Json

/-- A number: an exact integer or a floating-point number. -/
inductive Number where
  /-- An integer from `-2 ^ 63` to `2 ^ 64 - 1`. -/
  | int (n : Int)
  /-- A number with a fraction or an exponent, or an integer out of that range. -/
  | double (x : Decimal.Binary64)
  deriving DecidableEq, Repr

/-- A JSON value. -/
inductive Value where
  /-- The value `null`. -/
  | null
  /-- A truth value. -/
  | bool (b : Bool)
  /-- A number. -/
  | number (n : Number)
  /-- A text. -/
  | string (s : String)
  /-- A list of values. -/
  | array (items : List Value)
  /-- A list of named values. -/
  | object (members : List (String × Value))
  deriving Repr, Inhabited

/-- The members of an object. -/
abbrev Members := List (String × Value)

namespace Members

/-- The value of the first member with a key. -/
def get? (members : Members) (key : String) : Option Value :=
  members.lookup key

/-- Nothing is found where there are no members. -/
@[simp] theorem get?_nil (key : String) : get? [] key = none := rfl

end Members

namespace Value

/-- The member of an object with a key; other values have none. -/
def get? : Value → String → Option Value
  | .object members, key => Members.get? members key
  | _, _ => none

/-- An integer as a value. -/
def int (n : Int) : Value := .number (.int n)

/-- The text of a string value. -/
def string? : Value → Option String
  | .string s => some s
  | _ => none

/-- The items of an array. -/
def items? : Value → Option (List Value)
  | .array items => some items
  | _ => none

/-- The natural number that a value is, if it is an integer from `0` to `2 ^ 64 - 1`. -/
def nat? : Value → Option Nat
  | .number (.int n) => if 0 ≤ n ∧ n < Nat.pow 2 64 then some n.toNat else none
  | _ => none

/-- An object with its members in the order of the keys. -/
def sorted (members : List (String × Value)) : Value := .object (Ordered.ofList members)

/-- Only objects have members. -/
@[simp] theorem get?_object (members : Members) (key : String) :
    get? (.object members) key = Members.get? members key := rfl

end Value

end ToolingHost.Json
