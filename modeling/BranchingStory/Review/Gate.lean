import BranchingStory.Review.Basic
import BranchingStory.Wording

/-!
# Gates

A gate decides which findings keep a story from being played.
-/

namespace BranchingStory.Review

/-- Which findings keep a story from being played. -/
inductive Gate
  /-- None. -/
  | off
  /-- Errors. -/
  | errors
  /-- Errors and warnings. -/
  | warnings
deriving Repr, DecidableEq, Inhabited

namespace Gate

/-- The gates from the laxest one on. -/
def all : List Gate := [off, errors, warnings]

/-- The name of a gate. -/
def name : Gate → String
  | off => "off"
  | errors => "errors"
  | warnings => "warnings"

/-- The gate with a name. -/
def ofName? : String → Option Gate
  | "off" => some off
  | "errors" => some errors
  | "warnings" => some warnings
  | _ => none

@[simp] theorem ofName?_name (g : Gate) : ofName? g.name = some g := by
  cases g <;> rfl

/-- What is told about a name that no gate has. -/
def unknownReport (name : String) : Report where
  code := "API_GATE_INVALID"
  message := "Unknown validation gate \"" ++ name ++ "\"; expected off, errors or warnings."

/-- Whether a gate is closed to a story with these findings. -/
def blocks (g : Gate) (findings : List Finding) : Bool :=
  match g with
  | off => false
  | errors => hasErrors findings
  | warnings => hasErrors findings || hasWarnings findings

end Gate

/-- A story that a gate has not let through. -/
structure Blocked where
  /-- The gate. -/
  gate : Gate
  /-- The findings about the story. -/
  findings : List Finding
deriving Repr, DecidableEq

namespace Blocked

/-- The finding to be told first: the first error if there is one. -/
def worst? (b : Blocked) : Option Finding :=
  (b.findings.find? Finding.isError).or b.findings.head?

/-- What is told about a story that is not let through. -/
def report (b : Blocked) : Report where
  code := "API_VALIDATION_BLOCKED"
  message := "Story has " ++ toString b.findings.length ++ " finding(s) blocked by gate \"" ++
    b.gate.name ++ "\"; first: " ++ (b.worst?.map Finding.text).getD ""

end Blocked

/-- The findings about a story that a gate lets through. -/
def Gate.admit (g : Gate) (story : Story) : Except Blocked (List Finding) :=
  let findings := review story
  if g.blocks findings then .error ⟨g, findings⟩ else .ok findings

end BranchingStory.Review
