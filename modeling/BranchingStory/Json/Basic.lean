import BranchingStory.Decimal.Double
import BranchingStory.Dict

/-!
# JSON values

A JSON value keeps its objects as the list of their fields in the order of the text, with repeated
names, because a reader of records has to see them; `sorted` is the view of readers that take an
object as a dictionary. A number is a whole number of 64 bits or a double.
-/

namespace BranchingStory

/-- Why a text cannot be read as the JSON value that is wanted. -/
inductive Json.Problem
  /-- The text ends inside a value. -/
  | unexpectedEnd
  /-- A character that starts no token. -/
  | unexpectedCharacter (c : Char)
  /-- A word other than `true`, `false` and `null`. -/
  | unknownWord (word : String)
  /-- A numeral that breaks the grammar of numbers. -/
  | malformedNumber (numeral : String)
  /-- A backslash before a character that it does not go with. -/
  | malformedEscape (c : Char)
  /-- A control character inside a string. -/
  | controlCharacter (c : Char)
  /-- A token in a place where another kind is due. -/
  | misplacedToken
  /-- A number that is too large for a double. -/
  | numberOutOfRange
  /-- Half of a surrogate pair. -/
  | unpairedSurrogate
  /-- Arrays and objects lie in one another too deeply. -/
  | nestedTooDeeply
  /-- A value of another kind than the one due. -/
  | unexpectedShape (expected : String)
  /-- A field of a record that is given twice. -/
  | repeatedField (name : String)
  /-- A field of a record that has to be given and is not. -/
  | missingField (name : String)
  /-- More elements than a record has fields. -/
  | surplusElement
deriving Repr, DecidableEq

/-- The wording of a problem. -/
def Json.Problem.message : Json.Problem → String
  | .unexpectedEnd => "the text ends inside a value"
  | .unexpectedCharacter c => "unexpected character \"" ++ c.toString ++ "\""
  | .unknownWord word => "unknown word \"" ++ word ++ "\""
  | .malformedNumber numeral => "malformed number \"" ++ numeral ++ "\""
  | .malformedEscape c => "malformed escape before \"" ++ c.toString ++ "\""
  | .controlCharacter _ => "control character in a string"
  | .misplacedToken => "misplaced token"
  | .numberOutOfRange => "number out of range"
  | .unpairedSurrogate => "unpaired surrogate in a string"
  | .nestedTooDeeply => "values nested too deeply"
  | .unexpectedShape expected => "expected " ++ expected
  | .repeatedField name => "field \"" ++ name ++ "\" given twice"
  | .missingField name => "field \"" ++ name ++ "\" missing"
  | .surplusElement => "more elements than fields"

/-- A number of a JSON text. -/
inductive Json.Number
  /-- A whole number from `-2 ^ 63` to `2 ^ 64 - 1` that is written without point and exponent. -/
  | int (i : Int)
  /-- Any other number. -/
  | float (x : Float)
deriving Repr, Inhabited

/-- The double nearest to a number. -/
def Json.Number.toFloat : Json.Number → Float
  | .int i =>
    if i < 0 then -(UInt64.ofNat i.natAbs).toFloat else (UInt64.ofNat i.natAbs).toFloat
  | .float x => x

/-- A JSON value. -/
inductive Json
  /-- The value `null`. -/
  | null
  /-- A truth value. -/
  | bool (b : Bool)
  /-- A number. -/
  | number (n : Json.Number)
  /-- A string. -/
  | string (s : String)
  /-- An array. -/
  | array (items : List Json)
  /-- An object, as its fields in the order of the text. -/
  | object (fields : List (String × Json))
deriving Repr, Inhabited

namespace Json

mutual

/-- The value in which every object is a dictionary: its names increase, and of fields with one
name the last is kept. -/
def sorted : Json → Json
  | array items => array (sortedItems items)
  | object fields => object (sortedFields fields [])
  | value => value

/-- `sorted` for the elements of an array. -/
def sortedItems : List Json → List Json
  | [] => []
  | item :: rest => sorted item :: sortedItems rest

/-- Stores fields one after the other in a dictionary. -/
def sortedFields : List (String × Json) → Dict Json → Dict Json
  | [], d => d
  | (name, value) :: rest, d => sortedFields rest (d.insert name (sorted value))

end

end Json

end BranchingStory
