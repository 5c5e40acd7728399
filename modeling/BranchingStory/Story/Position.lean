import BranchingStory.Json.Basic
import BranchingStory.Wording

/-!
# Positions on the stage

A character stands at the left, in the center or at the right of the stage.
-/

namespace BranchingStory

/-- A place on the stage where a character can stand. -/
inductive Position
  /-- The left of the stage. -/
  | left
  /-- The center of the stage. -/
  | center
  /-- The right of the stage. -/
  | right
deriving Repr, DecidableEq, Inhabited

namespace Position

/-- The positions from left to right. -/
def all : List Position := [left, center, right]

theorem mem_all (p : Position) : p ∈ all := by
  cases p <;> simp [all]

/-- The name of a position. -/
def name : Position → String
  | left => "left"
  | center => "center"
  | right => "right"

/-- The position with a name. -/
def ofName? : String → Option Position
  | "left" => some left
  | "center" => some center
  | "right" => some right
  | _ => none

@[simp] theorem ofName?_name (p : Position) : ofName? p.name = some p := by
  cases p <;> rfl

/-- The message about a name that no position has. -/
def unknownMessage (name : String) : String :=
  "Unknown stage position \"" ++ name ++ "\"."

/-- What is told about a name that no position has. -/
def unknownReport (name : String) : Report where
  code := "POSITION_INVALID"
  message := unknownMessage name

/-- The position that a JSON value names: by a string, or by an object whose only field has the name
of the position and holds nothing. -/
def ofJson? : Json → Option Position
  | .string name => ofName? name
  | .object [(name, .null)] => ofName? name
  | .object [(name, .object [])] => ofName? name
  | _ => none

end Position

end BranchingStory
