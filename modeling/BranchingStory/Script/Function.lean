import BranchingStory.Script.Operation
import BranchingStory.Text.Blank
import BranchingStory.Text.LetterCase

/-!
# Functions of scripts

The functions that scripts can call. A function may change its first argument, for instance the
array that an element is added to; then it gives the changed argument back beside its result.
-/

namespace BranchingStory.Script

/-- What a call leads to. -/
structure Called where
  /-- The result. -/
  result : Datum
  /-- The first argument after the call, if the function is one of those that change it. -/
  changed : Option Datum := none

namespace Datum

/-- A function that changes nothing has this result. -/
def gives (result : Datum) : Except Problem Called :=
  .ok ⟨result, none⟩

/-- A function leaves its first argument changed and has this result. -/
def leaves (argument : Datum) (result : Datum := unit) : Except Problem Called :=
  .ok ⟨result, some argument⟩

/-! ## Positions -/

/-- The place of a position among a number of elements. Negative positions count from the end. -/
def placeOf? (position : Int) (count : Nat) : Option Nat :=
  if 0 ≤ position then (if position < count then some position.toNat else none)
  else if -position ≤ count then some (count - (-position).toNat)
  else none

/-! ## Reading numbers -/

/-- The whole number that a text is. -/
def parseInt? (text : String) : Option Int :=
  let (negative, digits) := match text.toList with
    | '-' :: digits => (true, digits)
    | '+' :: digits => (false, digits)
    | digits => (false, digits)
  if digits.isEmpty || !digits.all Char.isDigit then none
  else
    let value := Int.ofNat (digits.foldl (fun n c => 10 * n + (c.toNat - '0'.toNat)) 0)
    some (if negative then -value else value)

/-- The exponent that a text ends with. -/
def parseExponent? : List Char → Option Int
  | [] => some 0
  | e :: rest => if e = 'e' ∨ e = 'E' then parseInt? (String.ofList rest) else none

/-- The double that a text is, apart from its sign. -/
def parseMagnitude? (cs : List Char) : Option Float :=
  let whole := cs.takeWhile Char.isDigit
  let rest := cs.dropWhile Char.isDigit
  let (fraction, rest) := match rest with
    | '.' :: rest => (rest.takeWhile Char.isDigit, rest.dropWhile Char.isDigit)
    | rest => ([], rest)
  match String.ofList (cs.map Char.toLower) with
  | "inf" | "infinity" => some (1.0 / 0.0)
  | "nan" => some (0.0 / 0.0)
  | _ =>
    if whole.isEmpty && fraction.isEmpty then none
    else (parseExponent? rest).map fun exponent =>
      Decimal.ofDecimal
        ((whole ++ fraction).foldl (fun n c => 10 * n + (c.toNat - '0'.toNat)) 0)
        (exponent - Int.ofNat fraction.length)

/-- The double that a text is. -/
def parseFloat? (text : String) : Option Float :=
  match text.toList with
  | '-' :: cs => (parseMagnitude? cs).map fun x => -x
  | '+' :: cs => parseMagnitude? cs
  | cs => parseMagnitude? cs

/-! ## Numbers -/

/-- The whole number of 64 bits that a double is without its fraction. -/
def floatToInt (x : Float) : Except Problem Datum :=
  if 9223372036854775808.0 < x || x < -9223372036854775808.0 then .error .overflow
  else .ok (int x.toInt64)

/-- The smaller, or the larger, of two numbers or texts. What cannot be compared with the second
number gives way to it. -/
def extreme? (c : Comparison) (a b : Datum) : Option (Except Problem Datum) :=
  let pick (a b : Datum) : Except Problem Datum := do
    match ← c.apply a b with
    | bool true => return a
    | _ => return b
  match a, b with
  | int _, int _ => some (pick a b)
  | string _, string _ => some (pick a b)
  | char _, char _ => some (pick a b)
  | a, b =>
    match a.toFloat?, b.toFloat? with
    | some x, some y =>
      some (.ok (float (if c.onOrder .lt then (if x ≤ y then x else y)
        else (if y ≤ x then x else y))))
    | _, _ => none

/-- The kind of data as scripts tell it. -/
def typeName : Datum → String
  | range _ _ false => "range"
  | range _ _ true => "range="
  | other => other.kind

/-! ## Calls -/

/-- Functions of one argument. -/
def callOne (name : String) (a : Datum) : Except Problem Called :=
  match name, a with
  | "type_of", a => gives (string a.typeName)
  | "to_string", a => gives (string a.print)
  | "Fn", string s => gives (function s)
  | "len", string s => gives (int (Int64.ofNat s.length))
  | "len", array items => gives (int (Int64.ofNat items.length))
  | "len", map entries => gives (int (Int64.ofNat entries.length))
  | "is_empty", string s => gives (bool s.isEmpty)
  | "is_empty", array items => gives (bool items.isEmpty)
  | "is_empty", map entries => gives (bool entries.isEmpty)
  | "pop", array items => leaves (array items.dropLast) (items.getLast?.getD unit)
  | "pop", string s =>
    leaves (string (String.ofList s.toList.dropLast)) ((s.toList.getLast?.map char).getD unit)
  | "clear", array _ => leaves (array [])
  | "clear", map _ => leaves (map [])
  | "clear", string _ => leaves (string "")
  | "keys", map entries => gives (array (entries.map fun entry => string entry.1))
  | "values", map entries => gives (array (entries.map Prod.snd))
  | "to_upper", string s => gives (string (Text.toUpper s))
  | "to_lower", string s => gives (string (Text.toLower s))
  | "to_upper", char c => gives (match Text.upperChar c with
    | [d] => char d
    | _ => char c)
  | "to_lower", char c => gives (match Text.lowerChar c with
    | [d] => char d
    | _ => char c)
  | "trim", string s => leaves (string (Text.trim s))
  | "abs", int i => do gives (← checked i.toInt.natAbs)
  | "abs", float x => gives (float x.abs)
  | "floor", float x => gives (float x.floor)
  | "ceiling", float x => gives (float x.ceil)
  | "round", float x => gives (float x.round)
  | "sqrt", float x => gives (float x.sqrt)
  | "to_int", int i => gives (int i)
  | "to_int", float x => do gives (← floatToInt x)
  | "to_int", char c => gives (int (Int64.ofNat c.toNat))
  | "to_float", int i => gives (float i.toFloat)
  | "parse_int", string s =>
    match parseInt? (Text.trim s) with
    | some i => do gives (← checked i)
    | none => .error (.notANumber s)
  | "parse_float", string s =>
    match parseFloat? (Text.trim s) with
    | some x => gives (float x)
    | none => .error (.notANumber s)
  | name, _ => .error (.unknownFunction name)

/-- Functions of two arguments. -/
def callTwo (name : String) (a b : Datum) : Except Problem Called :=
  match name, a, b with
  | "push", array items, item => leaves (array (items ++ [item]))
  | "contains", a, b => do gives (bool (← isMember b a))
  | "remove", map entries, string name =>
    leaves (map (Dict.erase entries name)) ((Dict.get? entries name).getD unit)
  | "remove", array items, int i =>
    match placeOf? i.toInt items.length with
    | some place => leaves (array (items.eraseIdx place)) (items[place]?.getD unit)
    | none => leaves (array items)
  | "remove", string s, string part =>
    leaves (string (String.ofList (removeAll part.toList 0 s.toList)))
  | "remove", string s, char c => leaves (string (String.ofList (removeAll [c] 0 s.toList)))
  | "min", a, b =>
    match extreme? less a b with
    | some result => do gives (← result)
    | none => .error (.unknownFunction name)
  | "max", a, b =>
    match extreme? greater a b with
    | some result => do gives (← result)
    | none => .error (.unknownFunction name)
  | name, _, _ => .error (.unknownFunction name)

/-- Calls a function. -/
def call (name : String) : List Datum → Except Problem Called
  | [a] => callOne name a
  | [a, b] => callTwo name a b
  | _ => .error (.unknownFunction name)

/-! ## Parts -/

/-- The properties that are functions without further arguments. -/
def propertyFunctions : List String :=
  ["len", "is_empty", "floor", "ceiling", "round"]

/-- A property. Every name is one of a map, and leads to no value if the map does not have it. -/
def property (d : Datum) (name : String) : Except Problem Datum :=
  let byFunction : Except Problem Datum :=
    if propertyFunctions.contains name then (callOne name d).map Called.result
    else .error (.noProperty name)
  match d with
  | map entries => .ok ((Dict.get? entries name).getD unit)
  | float x =>
    if name = "int" then .ok (float (Decimal.truncate x))
    else if name = "fraction" then .ok (float (Decimal.fraction x))
    else byFunction
  | string _ => byFunction
  | array _ => byFunction
  | _ => .error (.noProperty name)

/-- The datum with another content of a property, if the property is a part that is there. -/
def withProperty (d : Datum) (name : String) (content : Datum) : Datum :=
  match d with
  | map entries =>
    if Dict.contains entries name then map (Dict.insert entries name content) else d
  | _ => d

/-- The element under an index: at a position, or under a name. -/
def element (d index : Datum) : Except Problem Datum :=
  match d, index with
  | map entries, string name => .ok ((Dict.get? entries name).getD unit)
  | array items, int i =>
    match (placeOf? i.toInt items.length).bind fun place => items[place]? with
    | some item => .ok item
    | none => .error .outOfRange
  | string s, int i =>
    match (placeOf? i.toInt s.length).bind fun place => s.toList[place]? with
    | some c => .ok (char c)
    | none => .error .outOfRange
  | map _, _ => .error .outOfRange
  | array _, _ => .error .outOfRange
  | string _, _ => .error .outOfRange
  | other, _ => .error (.noElements other.kind)

/-- The datum with another element under an index. -/
def withElement (d index content : Datum) : Except Problem Datum :=
  match d, index, content with
  | map entries, string name, content => .ok (map (Dict.insert entries name content))
  | array items, int i, content =>
    match placeOf? i.toInt items.length with
    | some place => .ok (array (items.set place content))
    | none => .error .outOfRange
  | string s, int i, char c =>
    match placeOf? i.toInt s.length with
    | some place => .ok (string (String.ofList (s.toList.set place c)))
    | none => .error .outOfRange
  | map _, _, _ => .error .outOfRange
  | array _, _, _ => .error .outOfRange
  | string _, _, _ => .error .outOfRange
  | other, _, _ => .error (.noElements other.kind)

/-- Whether there is an element under an index, so that it can be changed in place. -/
def hasElement (d index : Datum) : Bool :=
  match d, index with
  | map entries, string name => Dict.contains entries name
  | array _, _ => true
  | string _, _ => true
  | _, _ => false

end Datum

end BranchingStory.Script
