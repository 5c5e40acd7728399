import BranchingStory.Text.Quoted
import BranchingStory.Value.Basic

/-!
# Data of scripts

Scripts compute with more kinds of data than variables hold: whole numbers of 64 bits beside
doubles, characters beside texts, ranges, functions, and the unit `()`, which stands for no value at
all. `ofValue` brings the value of a variable into a script, and `toValue` brings data back, unless
they have no counterpart among values.

Data are printed in two forms: `print` is what a text becomes when data are appended to it, and
`inspect` is how data are written inside arrays and maps, where texts stand between quotes.
-/

namespace BranchingStory.Script

/-- Something that a script computes with. -/
inductive Datum
  /-- No value. -/
  | unit
  /-- A truth value. -/
  | bool (b : Bool)
  /-- A whole number. -/
  | int (i : Int64)
  /-- A double. -/
  | float (x : Float)
  /-- A text. -/
  | string (s : String)
  /-- A character. -/
  | char (c : Char)
  /-- An array. -/
  | array (items : List Datum)
  /-- A map, as a dictionary. -/
  | map (entries : List (String × Datum))
  /-- The whole numbers from one up to another, which belongs to them if `closed` is set. -/
  | range (first last : Int64) (closed : Bool)
  /-- A function, of which nothing but its name is known. -/
  | function (name : String)
deriving Inhabited

namespace Datum

/-- The name of the kind of data. -/
def kind : Datum → String
  | unit => "()"
  | bool _ => "bool"
  | int _ => "i64"
  | float _ => "f64"
  | string _ => "string"
  | char _ => "char"
  | array _ => "array"
  | map _ => "map"
  | range _ _ false => "core::ops::range::Range<i64>"
  | range _ _ true => "core::ops::range::RangeInclusive<i64>"
  | function _ => "Fn"

/-! ## Printing -/

/-- The largest double that is printed without an exponent. -/
def largestInPlace : Float := Decimal.ofDecimal 9999999827968 0

/-- The smallest positive double that is printed without an exponent. -/
def smallestInPlace : Float := Float.ofBits 0x3d3c25c260000000

/-- The text of a double: one that is neither very large nor very small is written in place. -/
def printFloat (x : Float) : String :=
  if x == 0 then "0.0"
  else if largestInPlace < x.abs || x.abs < smallestInPlace then Decimal.scientific.write x
  else Decimal.pointed.write x

/-- How a truth value is written. -/
def boolText (b : Bool) : String :=
  if b then "true" else "false"

mutual

/-- How data are written inside arrays and maps. -/
def inspect : Datum → String
  | unit => "()"
  | bool b => boolText b
  | int i => toString i
  | float x => Value.inspectLayout.write x
  | string s => Text.quoted s
  | char c => Text.quotedSingle c
  | array items => "[" ++ String.intercalate ", " (inspectItems items) ++ "]"
  | map entries => "#\x7b" ++ String.intercalate ", " (inspectEntries entries) ++ "\x7d"
  | range first last closed => toString first ++ (if closed then "..=" else "..") ++ toString last
  | function name => "Fn(" ++ name ++ ")"

/-- How the elements of an array are written. -/
def inspectItems : List Datum → List String
  | [] => []
  | item :: rest => inspect item :: inspectItems rest

/-- How the entries of a map are written. -/
def inspectEntries : List (String × Datum) → List String
  | [] => []
  | (name, item) :: rest => (Text.quoted name ++ ": " ++ inspect item) :: inspectEntries rest

end

/-- The text that data become. -/
def print : Datum → String
  | unit => ""
  | float x => printFloat x
  | string s => s
  | char c => c.toString
  | other => other.inspect

/-! ## Values of variables -/

mutual

/-- The value of a variable as data. All numbers of variables are doubles. -/
def ofValue : Value → Datum
  | .bool b => bool b
  | .number x => float x
  | .string s => string s
  | .array items => array (ofValues items)
  | .map entries => map (ofEntries entries)

/-- Values as data. -/
def ofValues : List Value → List Datum
  | [] => []
  | value :: rest => ofValue value :: ofValues rest

/-- Named values as data. -/
def ofEntries : List (String × Value) → List (String × Datum)
  | [] => []
  | (name, value) :: rest => (name, ofValue value) :: ofEntries rest

end

mutual

/-- Data as the value of a variable: whole numbers become doubles and characters become texts. The
error is the kind of the data, or of the first part of them, that no variable holds. -/
def toValue : Datum → Except String Value
  | bool b => .ok (.bool b)
  | int i => .ok (.number i.toFloat)
  | float x => .ok (.number x)
  | string s => .ok (.string s)
  | char c => .ok (.string c.toString)
  | array items => (toValues items).map .array
  | map entries => (toEntries entries).map .map
  | other => .error other.kind

/-- Data as values. -/
def toValues : List Datum → Except String (List Value)
  | [] => .ok []
  | item :: rest => do return (← toValue item) :: (← toValues rest)

/-- Named data as named values. -/
def toEntries : List (String × Datum) → Except String (List (String × Value))
  | [] => .ok []
  | (name, item) :: rest => do return (name, ← toValue item) :: (← toEntries rest)

end

end Datum

end BranchingStory.Script
