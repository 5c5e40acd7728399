import BranchingStory.Script.Expr
import BranchingStory.Script.Problem
import BranchingStory.Word

/-!
# Operators on data

Whole numbers are added, subtracted, multiplied and divided exactly or not at all: a result that
does not fit into 64 bits is a problem. As soon as one operand is a double, both are taken as
doubles, and doubles that differ by rounding only count as equal. Adding a text to anything appends
texts.

Data of different kinds can be compared; they are unequal, and neither is less than the other.
-/

namespace BranchingStory.Script

namespace Datum

/-! ## Comparison -/

/-- The relative difference up to which doubles count as equal. -/
def tolerance : Float := Float.ofBits 0x3cb0000000000000

/-- The measure for the difference of two doubles. -/
def magnitude (x y : Float) : Float :=
  if x * y == 0 then 1 else if x.abs < y.abs then y.abs else x.abs

/-- Whether two doubles are equal but for rounding. -/
def floatEqual (x y : Float) : Bool :=
  (x - y).abs / magnitude x y ≤ tolerance

/-- Whether two doubles differ by more than rounding. -/
def floatNotEqual (x y : Float) : Bool :=
  tolerance < (x - y).abs / magnitude x y

/-- Whether a double is less than another one by more than rounding. -/
def floatLess (x y : Float) : Bool :=
  tolerance < (y - x) / magnitude x y

/-- Whether a double is less than another one or equal to it but for rounding. -/
def floatLessEqual (x y : Float) : Bool :=
  -tolerance < (y - x) / magnitude x y

/-- Data as a double, if they are a number. -/
def toFloat? : Datum → Option Float
  | int i => some i.toFloat
  | float x => some x
  | _ => none

/-- Data as a text, if they are a text or a character. -/
def toText? : Datum → Option String
  | string s => some s
  | char c => some c.toString
  | _ => none

mutual

/-- Whether data are equal. -/
def equal : Datum → Datum → Bool
  | unit, unit => true
  | bool a, bool b => a == b
  | int i, int j => i == j
  | int i, float y => floatEqual i.toFloat y
  | float x, int j => floatEqual x j.toFloat
  | float x, float y => floatEqual x y
  | string s, string t => s == t
  | string s, char d => s == d.toString
  | char c, string t => c.toString == t
  | char c, char d => c == d
  | array items, array others => equalItems items others
  | map entries, map others => equalEntries entries others
  | range a b closed, range a' b' closed' => a == a' && b == b' && closed == closed'
  | _, _ => false

/-- Whether arrays have the same elements. -/
def equalItems : List Datum → List Datum → Bool
  | [], [] => true
  | item :: rest, other :: others => equal item other && equalItems rest others
  | _, _ => false

/-- Whether maps have the same entries. -/
def equalEntries : List (String × Datum) → List (String × Datum) → Bool
  | [], [] => true
  | (name, item) :: rest, (name', other) :: others =>
    name == name' && equal item other && equalEntries rest others
  | _, _ => false

end

/-- Whether data are unequal. Two doubles one of which is not a number are neither equal nor
unequal. -/
def notEqual (a b : Datum) : Bool :=
  match a, b with
  | int _, int _ => !equal a b
  | a, b =>
    match a.toFloat?, b.toFloat? with
    | some x, some y => floatNotEqual x y
    | _, _ => !equal a b

/-- A comparison of order. -/
structure Comparison where
  /-- Its name. -/
  name : String
  /-- What it says about doubles. -/
  onFloats : Float → Float → Bool
  /-- What it says about an exact order of two things. -/
  onOrder : Ordering → Bool

/-- What an operator says about the order of data. -/
def Comparison.apply (c : Comparison) (a b : Datum) : Except Problem Datum :=
  match a, b with
  | int i, int j => .ok (bool (c.onOrder (compare i.toInt j.toInt)))
  | bool p, bool q => .ok (bool (c.onOrder (compare p.toNat q.toNat)))
  | array _, array _ => .error (.unknownFunction c.name)
  | map _, map _ => .error (.unknownFunction c.name)
  | range _ _ _, range _ _ _ => .error (.unknownFunction c.name)
  | a, b =>
    match a.toFloat?, b.toFloat?, a.toText?, b.toText? with
    | some x, some y, _, _ => .ok (bool (c.onFloats x y))
    | _, _, some s, some t => .ok (bool (c.onOrder (compareOfLessAndEq s t)))
    | _, _, _, _ => .ok (bool false)

/-- The operator `<`. -/
def less : Comparison := ⟨"<", floatLess, fun o => o == .lt⟩

/-- The operator `<=`. -/
def lessEqual : Comparison := ⟨"<=", floatLessEqual, fun o => o != .gt⟩

/-- The operator `>`. -/
def greater : Comparison := ⟨">", fun x y => floatLess y x, fun o => o == .gt⟩

/-- The operator `>=`. -/
def greaterEqual : Comparison := ⟨">=", fun x y => floatLessEqual y x, fun o => o != .lt⟩

/-! ## Arithmetic -/

/-- A whole number, if it fits into 64 bits. -/
def checked (i : Int) : Except Problem Datum :=
  if Word.holds i then .ok (int (Int64.ofInt i)) else .error .overflow

/-- A power of whole numbers. From the sixty-fourth power on only those of `0`, `1` and `-1` fit
into 64 bits. -/
def intPower (i j : Int) : Except Problem Datum :=
  if j < 0 then .error .overflow
  else if j < 64 then checked (Int.pow i j.toNat)
  else if i = 0 ∨ i = 1 then checked i
  else if i = -1 then checked (if j % 2 = 0 then 1 else -1)
  else .error .overflow

/-- The bits of a whole number, moved to the left, or to the right if the distance is negative. -/
def shift (i : Int64) (distance : Int) : Int64 :=
  if 64 ≤ distance then 0
  else if 0 ≤ distance then i <<< Int64.ofInt distance
  else if -64 < distance then i >>> Int64.ofInt (-distance)
  else if i < 0 then -1 else 0

/-- The symbol of an operator. -/
def symbol : BinaryOp → String
  | .add => "+"
  | .subtract => "-"
  | .multiply => "*"
  | .divide => "/"
  | .modulo => "%"
  | .power => "**"
  | .shiftLeft => "<<"
  | .shiftRight => ">>"
  | .bitAnd => "&"
  | .bitOr => "|"
  | .bitXor => "^"
  | .equal => "=="
  | .notEqual => "!="
  | .less => "<"
  | .lessEqual => "<="
  | .greater => ">"
  | .greaterEqual => ">="

/-- An operator that is not a comparison on two whole numbers. -/
def intOperation (op : BinaryOp) (i j : Int64) : Except Problem Datum :=
  match op with
  | .add => checked (i.toInt + j.toInt)
  | .subtract => checked (i.toInt - j.toInt)
  | .multiply => checked (i.toInt * j.toInt)
  | .divide => if j = 0 then .error .divisionByZero else checked (i.toInt.tdiv j.toInt)
  | .modulo =>
    if j = 0 then .error .divisionByZero
    else if i = Int64.minValue ∧ j = -1 then .error .overflow
    else checked (i.toInt.tmod j.toInt)
  | .power => intPower i.toInt j.toInt
  | .shiftLeft => .ok (int (shift i j.toInt))
  | .shiftRight => .ok (int (shift i (-j.toInt)))
  | .bitAnd => .ok (int (i &&& j))
  | .bitOr => .ok (int (i ||| j))
  | .bitXor => .ok (int (i ^^^ j))
  | op => .error (.unknownFunction (symbol op))

/-- An operator that is not a comparison on two doubles. -/
def floatOperation (op : BinaryOp) (x y : Float) : Except Problem Datum :=
  match op with
  | .add => .ok (float (x + y))
  | .subtract => .ok (float (x - y))
  | .multiply => .ok (float (x * y))
  | .divide => .ok (float (x / y))
  | .modulo => .ok (float (Decimal.remainder x y))
  | .power => .ok (float (x ^ y))
  | op => .error (.unknownFunction (symbol op))

/-! ## Texts and collections -/

/-- Whether a text stands somewhere in another one. -/
def occursIn (part : List Char) : List Char → Bool
  | [] => part.isEmpty
  | c :: rest => part.isPrefixOf (c :: rest) || occursIn part rest

/-- Leaves out all occurrences of a text, from left to right; `skip` counts the characters of an
occurrence that are still to be left out. -/
def removeAll (part : List Char) : Nat → List Char → List Char
  | _, [] => []
  | skip + 1, _ :: rest => removeAll part skip rest
  | 0, c :: rest =>
    if !part.isEmpty && part.isPrefixOf (c :: rest) then removeAll part (part.length - 1) rest
    else c :: removeAll part 0 rest

/-- The sum of data that are not both numbers. -/
def join (a b : Datum) : Except Problem Datum :=
  match a, b with
  | array items, array others => .ok (array (items ++ others))
  | map entries, map others => .ok (map (Dict.merge entries others))
  | char c, char d => .ok (string (String.ofList [c, d]))
  | string s, b => .ok (string (s ++ b.print))
  | a, string t => .ok (string (a.print ++ t))
  | _, _ => .error (.unknownFunction "+")

/-- An operator on data that are not both numbers, unless it compares them. -/
def otherOperation (op : BinaryOp) (a b : Datum) : Except Problem Datum :=
  match op, a, b with
  | .add, a, b => join a b
  | .subtract, string s, string t => .ok (string (String.ofList (removeAll t.toList 0 s.toList)))
  | .subtract, string s, char d => .ok (string (String.ofList (removeAll [d] 0 s.toList)))
  | .bitAnd, bool p, bool q => .ok (bool (p && q))
  | .bitOr, bool p, bool q => .ok (bool (p || q))
  | .bitXor, bool p, bool q => .ok (bool (p != q))
  | op, _, _ => .error (.unknownFunction (symbol op))

/-- An operator on two data. -/
def binary (op : BinaryOp) (a b : Datum) : Except Problem Datum :=
  match op with
  | .equal => .ok (bool (equal a b))
  | .notEqual => .ok (bool (notEqual a b))
  | .less => less.apply a b
  | .lessEqual => lessEqual.apply a b
  | .greater => greater.apply a b
  | .greaterEqual => greaterEqual.apply a b
  | op =>
    match a, b with
    | int i, int j => intOperation op i j
    | a, b =>
      match a.toFloat?, b.toFloat? with
      | some x, some y => floatOperation op x y
      | _, _ => otherOperation op a b

/-- What is stored by an assignment with an operator. Arrays take up the elements of an array, or
anything else as an element; maps take up the entries of a map. -/
def updated (op : BinaryOp) (a b : Datum) : Except Problem Datum :=
  match op, a, b with
  | .add, array items, array others => .ok (array (items ++ others))
  | .add, array items, item => .ok (array (items ++ [item]))
  | op, a, b => binary op a b

/-- An operator on one datum. -/
def unary (op : UnaryOp) (a : Datum) : Except Problem Datum :=
  match op, a with
  | .negate, int i => checked (-i.toInt)
  | .negate, float x => .ok (float (-x))
  | .keep, int i => .ok (int i)
  | .keep, float x => .ok (float x)
  | .complement, bool p => .ok (bool (!p))
  | .negate, _ => .error (.unknownFunction "-")
  | .keep, _ => .error (.unknownFunction "+")
  | .complement, _ => .error (.unknownFunction "!")

/-- Whether data are an element of a collection: of an array, a text, the names of a map, a range.
-/
def isMember (item container : Datum) : Except Problem Bool :=
  match container, item with
  | array items, item => .ok (items.any fun other => equal other item)
  | map entries, string name => .ok (Dict.contains entries name)
  | string s, string part => .ok (occursIn part.toList s.toList)
  | string s, char c => .ok (s.toList.contains c)
  | range first last closed, int i =>
    .ok (first ≤ i && (if closed then i ≤ last else i < last))
  | _, _ => .error (.unknownFunction "contains")

end Datum

end BranchingStory.Script
