import BranchingStory.Log
import BranchingStory.Playback.Command
import BranchingStory.Story.Tree

/-!
# What happens during playback

Playback keeps a journal of events. Some of them are display commands; the others, except for the
options that the player takes, are told in log lines. The journal is typed, so that what a log says
can be read off it without reading log lines.
-/

namespace BranchingStory.Playback

/-- Where playback is in a story: the step with this number, counted from zero, of a node. -/
structure Cursor where
  /-- The address of the node. -/
  node : String
  /-- The number of the step. -/
  index : Nat
deriving Repr, DecidableEq, Inhabited

namespace Cursor

/-- The first step of a node. -/
def first (node : String) : Cursor := ⟨node, 0⟩

/-- The step after this one. -/
def next (c : Cursor) : Cursor := { c with index := c.index + 1 }

/-- The step as a location. -/
def location (c : Cursor) : Location := .step c.node c.index

/-- How a cursor is written. -/
def text (c : Cursor) : String := c.location.text

end Cursor

/-- What playback is doing. -/
inductive Status
  /-- Nothing yet. -/
  | idle
  /-- It executes steps. -/
  | running
  /-- It shows a line until the player has read it. -/
  | awaitingAdvance
  /-- It shows options until the player has chosen one. -/
  | awaitingChoice
  /-- It has stopped at a place where the story does not go on. -/
  | halted
  /-- The story has ended. -/
  | ended
deriving Repr, DecidableEq, Inhabited

namespace Status

/-- The name of a status. -/
def name : Status → String
  | idle => "Idle"
  | running => "Running"
  | awaitingAdvance => "AwaitingAdvance"
  | awaitingChoice => "AwaitingChoice"
  | halted => "Halted"
  | ended => "Ended"

/-- Whether nothing more will happen. -/
def isFinished : Status → Bool
  | halted => true
  | ended => true
  | _ => false

end Status

/-- What is wrong with a step that playback comes to. -/
inductive Complaint
  /-- No place is named. -/
  | noPlace
  /-- The story has no such place. -/
  | unknownPlace (name : String)
  /-- Who is to be shown, how, or where is not said. -/
  | incompleteAppearance
  /-- The story has no such character. -/
  | unknownCharacter (name : String)
  /-- The character has no such pose. -/
  | unknownPose (character pose : String)
  /-- Who is to be hidden is not said. -/
  | nobodyToHide
  /-- The line of a dialogue is missing. -/
  | noDialogueText
  /-- The line of the narration is missing. -/
  | noNarrationText
  /-- Who says the line is not said. -/
  | noSpeaker
  /-- The one who says the line is no character of the story. -/
  | unknownSpeaker (name : String)
  /-- The variable to be set, or its value, is missing. -/
  | incompleteAssignment
  /-- The node to go to is missing. -/
  | noTarget
  /-- The node to go to is not there. -/
  | unresolvedTarget (problem : NodeTree.AddressProblem)
  /-- The test is missing. -/
  | noTest
  /-- There is nothing to choose from. -/
  | noOptions
  /-- Nobody knows this kind of step. -/
  | unknownKind (kind : String)
deriving Repr, DecidableEq

/-- The wording of a complaint. -/
def Complaint.message : Complaint → String
  | .noPlace => "background without a place id"
  | .unknownPlace name => "unknown place \"" ++ name ++ "\""
  | .incompleteAppearance => "show_character needs a character, pose and position"
  | .unknownCharacter name => "unknown character \"" ++ name ++ "\""
  | .unknownPose character pose =>
    "character \"" ++ character ++ "\" has no pose \"" ++ pose ++ "\""
  | .nobodyToHide => "hide_character without a character id"
  | .noDialogueText => "dialogue without text skipped"
  | .noNarrationText => "narration without text skipped"
  | .noSpeaker => "dialogue without a speaker"
  | .unknownSpeaker name => "unknown speaker \"" ++ name ++ "\""
  | .incompleteAssignment => "set_variable needs a key and a value"
  | .noTarget => "jump without a target node"
  | .unresolvedTarget problem => "jump failed: " ++ problem.message
  | .noTest => "conditional_jump without a test"
  | .noOptions => "choice without options skipped"
  | .unknownKind kind => "unknown step kind \"" ++ kind ++ "\" skipped"

/-- A signal of the player that can come too late. -/
inductive Signal
  /-- The line has been read. -/
  | advance
  /-- The option with this number, counted from zero, is chosen. -/
  | choose (index : Nat)
deriving Repr, DecidableEq

/-- The name of a signal. -/
def Signal.name : Signal → String
  | .advance => "advance"
  | .choose _ => "choose"

/-- An entry of the journal of playback. -/
inductive Event
  /-- A command was sent. -/
  | displayed (command : Command)
  /-- Playback starts at a node. -/
  | starting (node : String)
  /-- Playback is thrown away to start again. -/
  | restarting
  /-- A signal came when nothing could happen any more. -/
  | ignored (signal : Signal) (status : Status)
  /-- A step is executed, with these variables. -/
  | executing (place : Cursor) (step : Step) (vars : Variables)
  /-- The option with a number is taken; its effect has been applied. -/
  | taken (place : Cursor) (index : Nat) (o : ChoiceOption)
  /-- Something is wrong with a step. -/
  | complained (place : Cursor) (complaint : Complaint)
  /-- The character to be hidden is not on the stage. -/
  | notOnStage (place : Cursor) (character : String)
  /-- A variable was set. -/
  | stored (place : Cursor) (key : String) (value : Value)
  /-- Playback goes to a node. -/
  | moved (place : Cursor) (target : String)
  /-- The node that playback is at is not there. -/
  | lost (problem : NodeTree.AddressProblem)
  /-- The steps of a node are used up. -/
  | exhausted (node : String) (count : Nat)
  /-- A function of the author failed. -/
  | failed (place : Cursor) (error : AuthorError)

namespace Event

/-- The command that was sent, if it is that. -/
def command? : Event → Option Command
  | displayed command => some command
  | _ => none

/-- The log line that tells about an event. -/
def line? (wording : Wording) : Event → Option LogLine
  | displayed _ => none
  | starting node => some ⟨.info, "starting story at \"" ++ node ++ "\""⟩
  | restarting => some ⟨.debug, "restarting playthrough"⟩
  | ignored signal status =>
    some ⟨.debug, signal.name ++ " ignored: story is " ++ status.name⟩
  | executing place step _ => some ⟨.trace, place.text ++ ": " ++ step.kind⟩
  | taken _ _ _ => none
  | complained place complaint => some ⟨.warn, place.text ++ ": " ++ complaint.message⟩
  | notOnStage place character =>
    some ⟨.trace, place.text ++ ": \"" ++ character ++ "\" is not on stage"⟩
  | stored place key value =>
    some ⟨.trace, place.text ++ ": " ++ key ++ " = " ++ value.display⟩
  | moved place target => some ⟨.debug, place.text ++ " -> \"" ++ target ++ "\""⟩
  | lost problem => some ⟨.warn, "current node cannot be resolved: " ++ problem.message⟩
  | exhausted node count =>
    some ⟨.debug, "node \"" ++ node ++ "\" exhausted after " ++ toString count ++
      " steps without a terminating step"⟩
  | failed place error =>
    some ⟨.warn, "step " ++ toString place.index ++ " of \"" ++ place.node ++ "\" failed: " ++
      (error.report wording).text⟩

/-- The commands in a journal. -/
def commands (events : List Event) : List Command :=
  events.filterMap command?

/-- The log lines of a journal. -/
def lines (wording : Wording) (events : List Event) : List LogLine :=
  events.filterMap (line? wording)

end Event

end BranchingStory.Playback
