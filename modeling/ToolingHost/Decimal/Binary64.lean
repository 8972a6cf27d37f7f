/-! # Binary floating-point numbers

Finite numbers of the binary format with 53 bits of precision, as exact pairs of integers: the
number `m · 2 ^ e` has the mantissa `m` and the exponent `e`. All arithmetic is on natural numbers,
so a result is the rounding of an exact quotient and can be reasoned about as such. Rounding goes to
the nearest number and, between two equally near ones, to the one with an even mantissa. -/

namespace ToolingHost.Decimal

/-- A finite binary floating-point number: `± mantissa · 2 ^ exponent`. -/
structure Binary64 where
  /-- Whether the sign is a minus; zero has a sign too. -/
  negative : Bool
  /-- The significant bits, below `2 ^ 53`. -/
  mantissa : Nat
  /-- The power of two, from `-1074` to `971`. -/
  exponent : Int
  deriving DecidableEq, Repr

namespace Binary64

/-- The number of bits of a full mantissa. -/
def precision : Nat := 53

/-- The exponent of the smallest positive number. -/
def minExponent : Int := -1074

/-- The exponent of the greatest number. -/
def maxExponent : Int := 971

/-- The quotient of two natural numbers, rounded to the nearest integer, a half to the even one. -/
def roundDiv (num den : Nat) : Nat :=
  let quotient := num / den
  let twice := 2 * (num % den)
  if twice < den then quotient
  else if den < twice then quotient + 1
  else quotient + quotient % 2

/-- The power of two as a fraction. -/
def twoPow (exponent : Int) : Nat × Nat :=
  (Nat.pow 2 exponent.toNat, Nat.pow 2 (-exponent).toNat)

/-- The exponent of the power of two at or below a positive fraction. -/
def floorLog2 (num den : Nat) : Int :=
  let guess : Int := (Nat.log2 num : Int) - (Nat.log2 den : Int)
  let (up, down) := twoPow guess
  if num * down < den * up then guess - 1 else guess

/-- The number nearest to the fraction `num / den`, or `none` when it lies beyond the greatest one.
-/
def ofFraction? (num den : Nat) : Option Binary64 :=
  if num = 0 ∨ den = 0 then some ⟨false, 0, minExponent⟩
  else
    let exponent := max (floorLog2 num den - (precision - 1 : Nat)) minExponent
    let (up, down) := twoPow exponent
    let mantissa := roundDiv (num * down) (den * up)
    let (mantissa, exponent) :=
      if mantissa = Nat.pow 2 precision then (Nat.pow 2 (precision - 1), exponent + 1)
      else (mantissa, exponent)
    if maxExponent < exponent then none else some ⟨false, mantissa, exponent⟩

/-- The magnitude of a number as a fraction. -/
def fraction (x : Binary64) : Nat × Nat :=
  let (up, down) := twoPow x.exponent
  (x.mantissa * up, down)

/-- Whether the number is zero, of either sign. -/
def isZero (x : Binary64) : Bool := x.mantissa == 0

/-- The number with the given sign. -/
def withSign (negative : Bool) (x : Binary64) : Binary64 := { x with negative }

/-- The magnitude of `x` times that of `y`, rounded. -/
def mul? (x y : Binary64) : Option Binary64 :=
  let (a, b) := x.fraction
  let (c, d) := y.fraction
  ofFraction? (a * c) (b * d)

/-- The magnitude of `x` divided by that of `y`, rounded. -/
def div? (x y : Binary64) : Option Binary64 :=
  let (a, b) := x.fraction
  let (c, d) := y.fraction
  ofFraction? (a * d) (b * c)

/-- The greatest power of ten that is a number of the format. -/
def maxPowerOfTen : Nat := 308

/-- Scales a magnitude by a power of ten in steps of at most `maxPowerOfTen`, rounding after each.
Three steps are enough to bring any significand of 64 bits down to zero. -/
def scale? : (steps : Nat) → Binary64 → Int → Option Binary64
  | 0, x, _ => some x
  | steps + 1, x, exponent =>
    if exponent.natAbs ≤ maxPowerOfTen then
      match ofFraction? (Nat.pow 10 exponent.natAbs) 1 with
      | none => none
      | some power => if 0 ≤ exponent then x.mul? power else x.div? power
    else if x.isZero then some x
    else if 0 ≤ exponent then none
    else
      match ofFraction? (Nat.pow 10 maxPowerOfTen) 1 with
      | none => none
      | some power =>
        match x.div? power with
        | none => none
        | some y => scale? steps y (exponent + maxPowerOfTen)

/-- The number read from a significand of at most 64 bits and a power of ten: the rounded
significand is multiplied or divided by the rounded power, and the result is rounded again. `none`
when it lies beyond the greatest number. -/
def ofScaled? (negative : Bool) (significand : Nat) (exponent : Int) : Option Binary64 :=
  match ofFraction? significand 1 with
  | none => none
  | some x => (scale? 4 x exponent).map (withSign negative)

/-- A half goes to the even neighbour. -/
theorem roundDiv_half : roundDiv 5 2 = 2 ∧ roundDiv 7 2 = 4 := by decide

end Binary64

end ToolingHost.Decimal
