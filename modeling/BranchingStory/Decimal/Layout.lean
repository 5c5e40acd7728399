import BranchingStory.Decimal.Shortest

/-!
# Layouts of decimal numbers

A double is written by its shortest digits. Where the point goes, and whether a number is written
with an exponent, differs from text to text: a `Layout` says so, and the module that writes a kind
of text holds the layout of its numbers.
-/

namespace BranchingStory.Decimal

/-- How the digits of a number are laid out. -/
structure Layout where
  /-- Whether a number whose first digit stands for this power of ten is written without an
  exponent. -/
  positional : Int → Bool
  /-- Whether `.0` is written after a number without fraction. -/
  pointZero : Bool
  /-- Whether a positive exponent has a sign. -/
  plusSign : Bool

/-- Digits in place, with the point after the digit for `10 ^ 0`. -/
def inPlace (pointZero : Bool) (digits : List Char) (first : Int) : String :=
  match first with
  | .negSucc n => "0." ++ String.ofList (List.replicate n '0' ++ digits)
  | .ofNat n =>
    if digits.length ≤ n + 1 then
      String.ofList (digits ++ List.replicate (n + 1 - digits.length) '0') ++
        if pointZero then ".0" else ""
    else String.ofList (digits.take (n + 1)) ++ "." ++ String.ofList (digits.drop (n + 1))

/-- Digits with the point after the first one, followed by the exponent. -/
def withExponent (plusSign : Bool) (digits : List Char) (first : Int) : String :=
  let body := match digits with
    | d :: d' :: rest => String.ofList (d :: '.' :: d' :: rest)
    | _ => String.ofList digits
  body ++ "e" ++ (if 0 ≤ first ∧ plusSign then "+" else "") ++ toString first

/-- The text of a double in a layout. -/
def Layout.write (layout : Layout) (x : Float) : String :=
  match parts x with
  | .nan => "NaN"
  | .infinite negative => if negative then "-inf" else "inf"
  | .zero negative => (if negative then "-" else "") ++ inPlace layout.pointZero ['0'] 0
  | .finite negative mantissa exponent =>
    let (value, power) := shortest mantissa exponent
    let digits := (toString value).toList
    let first := power + Int.ofNat digits.length - 1
    (if negative then "-" else "") ++
      if layout.positional first then inPlace layout.pointZero digits first
      else withExponent layout.plusSign digits first

/-- All digits in place, and no point after a whole number. -/
def plain : Layout where
  positional _ := true
  pointZero := false
  plusSign := false

/-- All digits in place, and a point in every number. -/
def pointed : Layout where
  positional _ := true
  pointZero := true
  plusSign := false

/-- Every number with an exponent. -/
def scientific : Layout where
  positional _ := false
  pointZero := false
  plusSign := false

end BranchingStory.Decimal
