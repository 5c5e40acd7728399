import BranchingStory.Decimal.Double

/-!
# Shortest decimal digits

Every real number close enough to a double is read back as that double. Among the decimal numbers
in this interval the shortest are those on the coarsest grid of multiples of a power of ten that
meets the interval; if a grid meets it, one of the two neighbours of the double on that grid lies in
it. So the search goes from coarse to fine, tests the two neighbours, and prefers the nearer one.

All comparisons are made on natural numbers: with the quarter of the unit in the last place as unit,
the double is four times its mantissa, and the ends of its interval are whole numbers as well.
-/

namespace BranchingStory.Decimal

/-- The reals that read back as one double, in units of `2 ^ unit`. -/
structure Interval where
  /-- The exponent of the unit. -/
  unit : Int
  /-- The lower end. -/
  lower : Nat
  /-- The double itself. -/
  value : Nat
  /-- The upper end. -/
  upper : Nat
  /-- Whether the ends belong to the interval, as they do when the mantissa is even. -/
  closed : Bool

/-- The interval of `mantissa · 2 ^ exponent`. Below a power of two the doubles lie twice as close.
-/
def Interval.of (mantissa : Nat) (exponent : Int) : Interval where
  unit := exponent - 2
  lower := if mantissa = hiddenBit ∧ leastExponent < exponent then 4 * mantissa - 1
    else 4 * mantissa - 2
  value := 4 * mantissa
  upper := 4 * mantissa + 2
  closed := mantissa % 2 == 0

namespace Interval

/-- The factor for grid points when both sides are made whole. -/
def gridFactor (i : Interval) (power : Int) : Nat :=
  Nat.pow 10 power.toNat * Nat.pow 2 (-i.unit).toNat

/-- The factor for units when both sides are made whole. -/
def unitFactor (i : Interval) (power : Int) : Nat :=
  Nat.pow 10 (-power).toNat * Nat.pow 2 i.unit.toNat

/-- Whether `digits · 10 ^ power` lies in the interval. -/
def holds (i : Interval) (digits : Nat) (power : Int) : Bool :=
  let point := digits * i.gridFactor power
  let low := i.lower * i.unitFactor power
  let high := i.upper * i.unitFactor power
  if i.closed then low ≤ point && point ≤ high else low < point && point < high

/-- The largest multiple of `10 ^ power` up to the double, as a count of steps. -/
def below (i : Interval) (power : Int) : Nat :=
  i.value * i.unitFactor power / i.gridFactor power

/-- Whether the double is nearer to the grid point `digits` than to the next one. -/
def nearerBelow (i : Interval) (digits : Nat) (power : Int) : Bool :=
  2 * (i.value * i.unitFactor power) < (2 * digits + 1) * i.gridFactor power

/-- The grid point in the interval that is nearest to the double, if the grid meets it. -/
def onGrid? (i : Interval) (power : Int) : Option Nat :=
  let digits := i.below power
  match i.holds digits power, i.holds (digits + 1) power with
  | true, true => some (if i.nearerBelow digits power then digits else digits + 1)
  | true, false => some digits
  | false, true => some (digits + 1)
  | false, false => none

/-- Goes through the grids from `power` down and stops at the first that meets the interval. -/
def coarsest (i : Interval) : Nat → Int → Nat × Int
  | 0, power => (i.below power, power)
  | tries + 1, power =>
    match i.onGrid? power with
    | some digits => (digits, power)
    | none => coarsest i tries (power - 1)

end Interval

/-- A decimal number `digits · 10 ^ power` without the zeros at the end of its digits. -/
def dropZeros : Nat → Nat → Int → Nat × Int
  | 0, digits, power => (digits, power)
  | places + 1, digits, power =>
    if digits % 10 = 0 then dropZeros places (digits / 10) (power + 1) else (digits, power)

/-- The shortest decimal number `digits · 10 ^ power` that reads back as the double
`mantissa · 2 ^ exponent`; of several the nearest. Twenty grids suffice: seventeen digits tell all
doubles apart, and the first grid is at most three steps too coarse. -/
def shortest (mantissa : Nat) (exponent : Int) : Nat × Int :=
  let magnitude := (exponent + Int.ofNat (Nat.log2 mantissa)) * 1233 / 4096
  let (digits, power) := (Interval.of mantissa exponent).coarsest 21 (magnitude + 2)
  dropZeros 20 digits power

end BranchingStory.Decimal
