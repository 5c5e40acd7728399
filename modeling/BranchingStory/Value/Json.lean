import BranchingStory.Json.Basic
import BranchingStory.Value.Basic

/-!
# Values in JSON texts

A JSON value is a value of a story variable unless `null` occurs in it: a truth value, a number as a
double, a string, an array, an object as a map. Of fields with one name the last one counts, but all
of them have to be values.
-/

namespace BranchingStory.Value

mutual

/-- The value that a JSON value stands for, unless `null` occurs in it. -/
def ofJson? : Json → Option Value
  | .null => none
  | .bool b => some (bool b)
  | .number n => some (number n.toFloat)
  | .string s => some (string s)
  | .array items => (itemsOfJson? items).map array
  | .object fields => (entriesOfJson? fields []).map map

/-- The values that the elements of an array stand for. -/
def itemsOfJson? : List Json → Option (List Value)
  | [] => some []
  | item :: rest => do return (← ofJson? item) :: (← itemsOfJson? rest)

/-- Stores the values that fields stand for in a dictionary. -/
def entriesOfJson? : List (String × Json) → Dict Value → Option (Dict Value)
  | [], entries => some entries
  | (name, json) :: rest, entries => do
    entriesOfJson? rest (entries.insert name (← ofJson? json))

end

end BranchingStory.Value
