/-!
# Locations in a story

The places that messages about a story point to: a field of the story itself, a node, a step of a
node, a field of a step, an option of a choice and a part of an option. Nodes are given by their
dotted path.
-/

namespace BranchingStory

/-- A place in a story. -/
inductive Location
  /-- A field of the story. -/
  | story (field : String)
  /-- A node. -/
  | node (path : String)
  /-- A step of a node. -/
  | step (path : String) (index : Nat)
  /-- A field of a step. -/
  | field (path : String) (index : Nat) (name : String)
  /-- An option of a choice. -/
  | option (path : String) (index : Nat) (number : Nat)
  /-- A part of an option. -/
  | part (path : String) (index : Nat) (number : Nat) (piece : Nat)
deriving Repr, DecidableEq, Inhabited

namespace Location

/-- A number between square brackets. -/
def bracket (n : Nat) : String :=
  "[" ++ toString n ++ "]"

/-- How a step is written: its node and its number, counted from zero. -/
def stepText (path : String) (index : Nat) : String :=
  path ++ bracket index

/-- How a location is written. -/
def text : Location → String
  | story name => name
  | node path => path
  | step path index => stepText path index
  | field path index name => stepText path index ++ "." ++ name
  | option path index number => stepText path index ++ ".options" ++ bracket number
  | part path index number piece =>
    stepText path index ++ ".options" ++ bracket number ++ bracket piece

end Location

end BranchingStory
