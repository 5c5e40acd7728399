import BranchingStory.Word

/-!
# Doubles taken apart

A double is nothing, an infinity, a zero, or `± mantissa · 2 ^ exponent` with a positive mantissa
below `2 ^ 53`. Taken apart in this way, questions about its decimal text become questions about
natural numbers. `ofDecimal` goes the other way: it is the double nearest to a decimal number.
-/

namespace BranchingStory.Decimal

/-- What the bits of a double stand for. -/
inductive Parts
  /-- Not a number. -/
  | nan
  /-- An infinity. -/
  | infinite (negative : Bool)
  /-- A zero, which has a sign too. -/
  | zero (negative : Bool)
  /-- The number `mantissa · 2 ^ exponent`, or its negative. -/
  | finite (negative : Bool) (mantissa : Nat) (exponent : Int)
deriving Repr, DecidableEq

/-- The least exponent, which the numbers below the normal range share. -/
def leastExponent : Int := -1074

/-- The highest bit of a mantissa in the normal range, which is not among the bits of the double. -/
def hiddenBit : Nat := 4503599627370496

/-- Takes a double apart. -/
def parts (x : Float) : Parts :=
  let bits := x.toBits.toNat
  let negative := decide (Word.signedBound ≤ bits)
  let biased := bits / hiddenBit % 2048
  let fraction := bits % hiddenBit
  if biased = 2047 then
    if fraction = 0 then .infinite negative else .nan
  else if biased = 0 then
    if fraction = 0 then .zero negative else .finite negative fraction leastExponent
  else .finite negative (hiddenBit + fraction) (Int.ofNat biased - 1075)

/-- The integer nearest to a double among those between it and zero, as a double. -/
def truncate (x : Float) : Float :=
  if x < 0 then x.ceil else x.floor

/-- What a double has beyond its integer part; it has the sign of the double. -/
def fraction (x : Float) : Float :=
  x - truncate x

/-- The remainder of a division whose quotient is rounded toward zero. It is exact, and it has the
sign of the dividend. -/
def remainder (x y : Float) : Float :=
  match parts x, parts y with
  | .zero _, .finite _ _ _ => x
  | .zero _, .infinite _ => x
  | .finite _ _ _, .infinite _ => x
  | .finite negative m e, .finite _ n f =>
    let unit := min e f
    let rest := m * Nat.pow 2 (e - unit).toNat % (n * Nat.pow 2 (f - unit).toNat)
    let magnitude := (Float.ofNat rest).scaleB unit
    if negative then -magnitude else magnitude
  | _, _ => 0.0 / 0.0

/-- The double nearest to `mantissa · 10 ^ exponent`. -/
def ofDecimal (mantissa : Nat) (exponent : Int) : Float :=
  if mantissa = 0 then 0
  else if 400 < exponent then 1.0 / 0.0
  else if exponent + Int.ofNat (Nat.log2 mantissa) < -1200 then 0
  else Float.ofScientific mantissa (exponent < 0) exponent.natAbs

end BranchingStory.Decimal
