import BranchingStory.Json.Basic
import BranchingStory.Word

/-!
# Numerals

The numbers of JSON texts. A numeral without point and exponent that fits into 64 bits is a whole
number. Any other one is a double: its leading digits are collected into a significand for as long
as that fits into 64 bits, and the significand, rounded to a double, is multiplied or divided by the
power of ten that is left. The result is the nearest double whenever the significand is below
`2 ^ 53` and the power at most `10 ^ 22`, and may be a neighbour of it otherwise.
-/

namespace BranchingStory.Json

/-- A numeral in its parts. -/
structure Numeral where
  /-- Whether it starts with a minus sign. -/
  negative : Bool
  /-- The digits before the point. -/
  whole : List Nat
  /-- The digits after the point, if there is one. -/
  fraction : Option (List Nat)
  /-- The exponent, if there is one. -/
  exponent : Option Int
deriving Repr, DecidableEq

namespace Numeral

/-- The value of a decimal digit. -/
def digit (c : Char) : Nat :=
  c.toNat - '0'.toNat

/-- The number that digits stand for. -/
def ofDigits (digits : List Nat) : Nat :=
  digits.foldl (fun n d => 10 * n + d) 0

/-- Digits at the start of a text, and what follows them. -/
def spanDigits (cs : List Char) : List Nat × List Char :=
  ((cs.takeWhile Char.isDigit).map digit, cs.dropWhile Char.isDigit)

/-- The exponent that a text consists of, if it is one; no exponent is the empty text. -/
def readExponent? : List Char → Option (Option Int)
  | [] => some none
  | e :: rest =>
    if e = 'e' ∨ e = 'E' then
      let (negative, digits) := match rest with
        | '+' :: digits => (false, digits)
        | '-' :: digits => (true, digits)
        | digits => (false, digits)
      match spanDigits digits with
      | ([], _) => none
      | (ds, []) =>
        some (some (if negative then -Int.ofNat (ofDigits ds) else Int.ofNat (ofDigits ds)))
      | _ => none
    else none

/-- The numeral that a text consists of, if it is one. -/
def ofChars? (cs : List Char) : Option Numeral :=
  let (negative, cs) := match cs with
    | '-' :: rest => (true, rest)
    | _ => (false, cs)
  match spanDigits cs with
  | ([], _) => none
  | (0 :: _ :: _, _) => none
  | (whole, '.' :: rest) =>
    match spanDigits rest with
    | ([], _) => none
    | (fraction, rest) =>
      (readExponent? rest).map fun exponent => ⟨negative, whole, some fraction, exponent⟩
  | (whole, rest) => (readExponent? rest).map fun exponent => ⟨negative, whole, none, exponent⟩

/-- Appends digits to a significand while it fits into 64 bits, and returns the digits that are
left. -/
def absorb : Nat → List Nat → Nat × List Nat
  | significand, [] => (significand, [])
  | significand, d :: rest =>
    if 10 * significand + d < Word.bound then absorb (10 * significand + d) rest
    else (significand, d :: rest)

/-- A double divided by a power of ten, in steps that a double can hold. -/
def divide (x : Float) (power : Nat) : Float :=
  if _ : power ≤ 308 then x / Decimal.ofDecimal 1 power
  else if x == 0 then x
  else divide (x / Decimal.ofDecimal 1 308) (power - 308)
termination_by power

/-- A double times a power of ten, unless that is too large. -/
def scale? (x : Float) (power : Int) : Option Float :=
  match power with
  | .negSucc n => some (divide x (n + 1))
  | .ofNat n =>
    if n ≤ 308 then
      let y := x * Decimal.ofDecimal 1 n
      if y.isInf then none else some y
    else if x == 0 then some x
    else none

/-- The value of a numeral, unless it is too large. -/
def number? (n : Numeral) : Option Number :=
  let (significand, dropped) := absorb 0 n.whole
  match n.fraction, n.exponent, dropped with
  | none, none, [] =>
    if !n.negative then some (.int significand)
    else if significand = 0 ∨ Word.signedBound < significand then
      some (.float (-(UInt64.ofNat significand).toFloat))
    else some (.int (-significand))
  | fraction, exponent, dropped =>
    let digits := fraction.getD []
    let (significand, left) := absorb significand digits
    let power := Int.ofNat dropped.length - Int.ofNat (digits.length - left.length) +
      exponent.getD 0
    (scale? (UInt64.ofNat significand).toFloat power).map fun x =>
      .float (if n.negative then -x else x)

end Numeral

end BranchingStory.Json
