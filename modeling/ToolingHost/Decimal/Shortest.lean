import ToolingHost.Decimal.Binary64

/-! # The shortest decimal of a floating-point number

A finite number is written with the fewest digits that still lie nearer to it than to any other
number of the format. The reals that round to the number form an interval, whose ends belong to it
when the mantissa is even. For one, two, … seventeen digits the two neighbours of the value on that
decimal grid are tried; the first grid with a hit wins, and of two hits the nearer one. All of it is
exact arithmetic on natural numbers. -/

namespace ToolingHost.Decimal

/-- A decimal `digits · 10 ^ exponent`. -/
structure Scaled where
  /-- The digits as one natural number. -/
  digits : Nat
  /-- The power of ten of the last digit. -/
  exponent : Int
  deriving DecidableEq, Repr

namespace Binary64

/-- The power of ten as a fraction. -/
def tenPow (exponent : Int) : Nat × Nat :=
  (Nat.pow 10 exponent.toNat, Nat.pow 10 (-exponent).toNat)

/-- The reals that round to a positive number, as numerators over the common denominator of
`interval`: the lower end, the value, the upper end, and that denominator. The gap below a power of
two is half as wide as the one above. -/
def interval (x : Binary64) : Nat × Nat × Nat × Nat :=
  let (up, down) := twoPow x.exponent
  let below := if x.mantissa = Nat.pow 2 (precision - 1) ∧ minExponent < x.exponent then 1 else 2
  ((4 * x.mantissa - below) * up, 4 * x.mantissa * up, (4 * x.mantissa + 2) * up, 4 * down)

/-- The exponent of the power of ten at or below a positive fraction, found by counting down from an
estimate above it. -/
def floorLog10 (num den : Nat) : Int :=
  let estimate : Int := ((Nat.log2 num : Int) - (Nat.log2 den : Int) + 1) * 30103 / 100000 + 1
  let atMost (e : Int) : Bool := let (up, down) := tenPow e; den * up ≤ num * down
  if atMost estimate then estimate
  else if atMost (estimate - 1) then estimate - 1
  else if atMost (estimate - 2) then estimate - 2
  else estimate - 3

/-- The best decimal of a positive number on the grid of `10 ^ exponent`, if one of the two
neighbours of the value there rounds to the number. An exact tie goes to the even digit. -/
def onGrid? (x : Binary64) (exponent : Int) : Option Scaled :=
  let (low, value, high, den) := x.interval
  let (up, down) := tenPow exponent
  let unit := den * up
  let floor := value * down / unit
  let inside (n : Nat) : Bool :=
    if x.mantissa % 2 = 0 then low * down ≤ n * unit && n * unit ≤ high * down
    else low * down < n * unit && n * unit < high * down
  let gapBelow := value * down - floor * unit
  let gapAbove := (floor + 1) * unit - value * down
  match inside floor && floor != 0, inside (floor + 1) with
  | true, true =>
    let takeFloor := gapBelow < gapAbove || (gapBelow == gapAbove && floor % 2 == 0)
    some ⟨if takeFloor then floor else floor + 1, exponent⟩
  | true, false => some ⟨floor, exponent⟩
  | false, true => some ⟨floor + 1, exponent⟩
  | false, false => none

/-- Tries grids of growing fineness, starting at `10 ^ exponent`. -/
def firstGrid (x : Binary64) : (tries : Nat) → Int → Scaled
  | 0, exponent => ⟨0, exponent⟩
  | tries + 1, exponent =>
    match x.onGrid? exponent with
    | some d => d
    | none => firstGrid x tries (exponent - 1)

/-- The digits and exponent without trailing zeros. -/
def Scaled.strip : (fuel : Nat) → Scaled → Scaled
  | 0, d => d
  | fuel + 1, d =>
    if d.digits ≠ 0 ∧ d.digits % 10 = 0 then Scaled.strip fuel ⟨d.digits / 10, d.exponent + 1⟩
    else d

/-- The shortest decimal that reads back as the magnitude of `x`, nearest to it among those. -/
def shortest (x : Binary64) : Scaled :=
  if x.isZero then ⟨0, 0⟩
  else
    let (num, den) := x.fraction
    Scaled.strip 20 (x.firstGrid 18 (floorLog10 num den))

end Binary64

/-- How a floating-point number is laid out as text. -/
structure Layout where
  /-- The least position of the decimal point, counted from the first digit, written positionally.
  -/
  leastPoint : Int
  /-- The greatest position of the decimal point written positionally. -/
  greatestPoint : Int
  /-- What an integral number written positionally ends in. -/
  integralEnd : String
  /-- The mark of the exponent. -/
  exponentMark : String
  /-- The sign of an exponent that is not negative. -/
  exponentPlus : String
  deriving DecidableEq, Repr

namespace Layout

/-- `n` zeros. -/
def zeros (n : Nat) : String := String.ofList (List.replicate n '0')

/-- Lays out a number: positionally where the layout says so, else with one digit before the point
and an exponent. -/
def render (layout : Layout) (x : Binary64) : String :=
  let d := x.shortest
  let digits := toString d.digits
  let point : Int := d.exponent + digits.length
  let body :=
    if x.isZero then "0" ++ layout.integralEnd
    else if 0 ≤ d.exponent ∧ point ≤ layout.greatestPoint then
      digits ++ zeros d.exponent.toNat ++ layout.integralEnd
    else if 0 < point ∧ point ≤ layout.greatestPoint then
      let split := point.toNat
      String.ofList (digits.toList.take split) ++ "." ++ String.ofList (digits.toList.drop split)
    else if layout.leastPoint ≤ point ∧ point ≤ 0 then
      "0." ++ zeros (-point).toNat ++ digits
    else
      let head := String.ofList (digits.toList.take 1)
      let tail := digits.toList.drop 1
      let mantissa := if tail.isEmpty then head else head ++ "." ++ String.ofList tail
      let power := point - 1
      let sign := if power < 0 then "-" else layout.exponentPlus
      mantissa ++ layout.exponentMark ++ sign ++ toString power.natAbs
  if x.negative then "-" ++ body else body

end Layout

end ToolingHost.Decimal
