import BranchingStory.Json.Basic
import BranchingStory.Decimal.Layout

/-!
# Writing JSON

A value is written on one line without blanks, or spread over lines with two blanks of indentation
per level. Fields are written in the order in which they stand in the value. Strings escape the
quote, the backslash and the control characters and nothing else.
-/

namespace BranchingStory.Json

/-- The numbers of JSON texts are written without exponent from `0.00001` up to sixteen digits
before the point, always with a point, and with the sign of the exponent. -/
def layout : Decimal.Layout where
  positional first := -5 ≤ first && first ≤ 15
  pointZero := true
  plusSign := true

/-- The text of a number. -/
def Number.print : Number → String
  | .int i => toString i
  | .float x => layout.write x

/-- The two lower-case hexadecimal digits of a number below 256. -/
def hexByte (n : Nat) : String :=
  String.ofList [Nat.digitChar (n / 16), Nat.digitChar (n % 16)]

/-- How a character is written inside a string. -/
def escapeChar (c : Char) : String :=
  match c with
  | '"' => "\\\""
  | '\\' => "\\\\"
  | '\x08' => "\\b"
  | '\x0c' => "\\f"
  | '\n' => "\\n"
  | '\r' => "\\r"
  | '\t' => "\\t"
  | c => if c.toNat < 0x20 then "\\u00" ++ hexByte c.toNat else c.toString

/-- The text of a string. -/
def quote (s : String) : String :=
  "\"" ++ String.join (s.toList.map escapeChar) ++ "\""

mutual

/-- The text of a value on one line. -/
def compact : Json → String
  | null => "null"
  | bool b => if b then "true" else "false"
  | number n => n.print
  | string s => quote s
  | array items => "[" ++ String.intercalate "," (compactItems items) ++ "]"
  | object fields => "\x7b" ++ String.intercalate "," (compactFields fields) ++ "\x7d"

/-- The texts of the elements of an array. -/
def compactItems : List Json → List String
  | [] => []
  | item :: rest => compact item :: compactItems rest

/-- The texts of the fields of an object. -/
def compactFields : List (String × Json) → List String
  | [] => []
  | (name, value) :: rest => (quote name ++ ":" ++ compact value) :: compactFields rest

end

/-- A line feed and the blanks of a level. -/
def newline (level : Nat) : String :=
  "\n" ++ String.ofList (List.replicate (2 * level) ' ')

/-- Texts between brackets, each on a line of its own; without texts the brackets meet. -/
def block (opening closing : String) (level : Nat) (texts : List String) : String :=
  if texts.isEmpty then opening ++ closing
  else opening ++ newline (level + 1) ++
    String.intercalate ("," ++ newline (level + 1)) texts ++ newline level ++ closing

mutual

/-- The text of a value that stands at a level, spread over lines. -/
def prettyAt (level : Nat) : Json → String
  | null => "null"
  | bool b => if b then "true" else "false"
  | number n => n.print
  | string s => quote s
  | array items => block "[" "]" level (prettyItems (level + 1) items)
  | object fields => block "\x7b" "\x7d" level (prettyFields (level + 1) fields)

/-- The texts of the elements of an array. -/
def prettyItems (level : Nat) : List Json → List String
  | [] => []
  | item :: rest => prettyAt level item :: prettyItems level rest

/-- The texts of the fields of an object. -/
def prettyFields (level : Nat) : List (String × Json) → List String
  | [] => []
  | (name, value) :: rest =>
    (quote name ++ ": " ++ prettyAt level value) :: prettyFields level rest

end

/-- The text of a value spread over lines. -/
def pretty (value : Json) : String :=
  prettyAt 0 value

end BranchingStory.Json
