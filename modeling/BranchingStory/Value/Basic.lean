import BranchingStory.Decimal.Layout
import BranchingStory.Dict
import BranchingStory.Text.Quoted

/-!
# Values of story variables

A variable of a story holds a truth value, a number, a text, an array of values or a map from names
to values. There is no absent value: a variable that has no value is not there.

A value has two texts. `display` is what a reader of a log sees; arrays and maps are written in it
as `inspect` writes them, which shows the kind of every value.
-/

namespace BranchingStory

/-- A value of a story variable. -/
inductive Value
  /-- A truth value. -/
  | bool (b : Bool)
  /-- A number. -/
  | number (x : Float)
  /-- A text. -/
  | string (s : String)
  /-- An array. -/
  | array (items : List Value)
  /-- A map, as a dictionary. -/
  | map (entries : List (String × Value))
deriving Inhabited

/-- The variables of a story: the values that are set, by name. -/
abbrev Variables := Dict Value

namespace Value

/-- The truth value, if the value is one. -/
def bool? : Value → Option Bool
  | bool b => some b
  | _ => none

/-- The number, if the value is one. -/
def number? : Value → Option Float
  | number x => some x
  | _ => none

/-- The text, if the value is one. -/
def string? : Value → Option String
  | string s => some s
  | _ => none

/-- The name of the kind of a value. -/
def kind : Value → String
  | bool _ => "boolean"
  | number _ => "number"
  | string _ => "string"
  | array _ => "array"
  | map _ => "map"

/-! ## Texts -/

/-- Numbers inside arrays and maps are written with an exponent below `0.0001` and from `10 ^ 16`
on, and otherwise with a point. -/
def inspectLayout : Decimal.Layout where
  positional first := -4 ≤ first && first < 16
  pointZero := true
  plusSign := false

mutual

/-- The text of a value that shows its kind. -/
def inspect : Value → String
  | bool b => "Bool(" ++ (if b then "true" else "false") ++ ")"
  | number x => "Number(" ++ inspectLayout.write x ++ ")"
  | string s => "String(" ++ Text.quoted s ++ ")"
  | array items => "Array([" ++ String.intercalate ", " (inspectItems items) ++ "])"
  | map entries => "Map(\x7b" ++ String.intercalate ", " (inspectEntries entries) ++ "\x7d)"

/-- The texts of the elements of an array. -/
def inspectItems : List Value → List String
  | [] => []
  | item :: rest => inspect item :: inspectItems rest

/-- The texts of the entries of a map. -/
def inspectEntries : List (String × Value) → List String
  | [] => []
  | (name, value) :: rest => (Text.quoted name ++ ": " ++ inspect value) :: inspectEntries rest

end

/-- The distance of the number one to the next double. -/
def epsilon : Float := Decimal.ofDecimal 2220446049250313 (-31)

/-- The text of a number: without fraction it is a whole number of 64 bits, the nearest one if it is
larger than these are. -/
def displayNumber (x : Float) : String :=
  if (Decimal.fraction x).abs < epsilon then toString x.toInt64 else Decimal.plain.write x

/-- The text of a value for a reader. -/
def display : Value → String
  | bool b => if b then "true" else "false"
  | number x => displayNumber x
  | string s => s
  | value => value.inspect

end Value

namespace Variables

/-- The number that a variable holds, and zero if it holds none. -/
def number (vars : Variables) (key : String) : Float :=
  ((vars.get? key).bind Value.number?).getD 0

/-- The truth value that a variable holds, and false if it holds none. -/
def flag (vars : Variables) (key : String) : Bool :=
  ((vars.get? key).bind Value.bool?).getD false

end Variables

end BranchingStory
