import BranchingStory.Log
import BranchingStory.Story.Tree

/-!
# Findings

A finding is what a review of a story has to say about one place in it. An error keeps the story
from being played as it is meant; a warning may be what the author wants.
-/

namespace BranchingStory.Review

/-- How bad a finding is. -/
inductive Severity
  /-- The story cannot be played as it stands. -/
  | error
  /-- The story may not be what the author wants. -/
  | warning
deriving Repr, DecidableEq, Inhabited

/-- The name of a severity. -/
def Severity.name : Severity → String
  | .error => "error"
  | .warning => "warning"

/-- What is wrong at a place. -/
inductive Issue
  /-- The story does not say where it starts. -/
  | noStart
  /-- The story has no nodes. -/
  | noNodes
  /-- The story declares no variables. -/
  | noVariables
  /-- The story starts at a node that is not there. -/
  | startUnresolved (problem : NodeTree.AddressProblem)
  /-- A node has no steps. -/
  | noSteps
  /-- A step lacks a field that its kind needs. -/
  | missingField (kind field : String)
  /-- A step uses a place that the story does not have. -/
  | unknownPlace (kind name : String)
  /-- A step uses a character that the story does not have. -/
  | unknownCharacter (kind name : String)
  /-- A step uses a pose that its character does not have. -/
  | unknownPose (character pose : String)
  /-- A choice has no options. -/
  | noOptions
  /-- An option has no label. -/
  | noLabel
  /-- A step is of a kind that nobody knows. -/
  | unknownKind (kind : String)
  /-- A step names a group in the place of a node. -/
  | targetIsGroup (target : String)
  /-- A step names a node that is not there. -/
  | targetMissing (target : String)
  /-- No step leads to a node, and the story does not start there. -/
  | unreachable
  /-- A node ends with a step of a kind that does not hand the story on. -/
  | abruptEnd (kind : String)
deriving Repr, DecidableEq

/-- The wording of an issue. -/
def Issue.message : Issue → String
  | .noStart => "story is missing required field \"start\""
  | .noNodes => "story has no nodes"
  | .noVariables => "story has no \"variables\"; playback starts with an empty state"
  | .startUnresolved problem => "start node cannot be resolved: " ++ problem.message
  | .noSteps => "node has no steps"
  | .missingField kind field => kind ++ " is missing \"" ++ field ++ "\""
  | .unknownPlace kind name => kind ++ " uses unknown place \"" ++ name ++ "\""
  | .unknownCharacter kind name => kind ++ " uses unknown character \"" ++ name ++ "\""
  | .unknownPose character pose =>
    "character \"" ++ character ++ "\" has no pose \"" ++ pose ++ "\""
  | .noOptions => "choice needs at least one option"
  | .noLabel => "choice option has no label"
  | .unknownKind kind => "unknown step kind \"" ++ kind ++ "\""
  | .targetIsGroup target => "referenced node \"" ++ target ++ "\" is a group, not a node"
  | .targetMissing target => "referenced node \"" ++ target ++ "\" does not exist"
  | .unreachable => "node is unreachable: it is not the start node and nothing jumps to it"
  | .abruptEnd kind =>
    "node ends with \"" ++ kind ++ "\" instead of jump_to, conditional_jump, choice or end_story" ++
      " and will stop abruptly"

/-- What a review says about a place in a story. -/
structure Finding where
  /-- How bad it is. -/
  severity : Severity
  /-- The place. -/
  location : Location
  /-- What is wrong there. -/
  issue : Issue
deriving Repr, DecidableEq

namespace Finding

/-- Whether a finding is an error. -/
def isError (f : Finding) : Bool :=
  f.severity = .error

/-- Whether a finding is a warning. -/
def isWarning (f : Finding) : Bool :=
  f.severity = .warning

/-- A finding on one line. -/
def text (f : Finding) : String :=
  f.severity.name ++ " at " ++ f.location.text ++ ": " ++ f.issue.message

/-- The log line that tells about a finding. -/
def line (f : Finding) : LogLine where
  level := match f.severity with
    | .error => .error
    | .warning => .warn
  message := f.location.text ++ ": " ++ f.issue.message

end Finding

end BranchingStory.Review
