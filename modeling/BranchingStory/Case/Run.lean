import BranchingStory.Case.Basic
import BranchingStory.Document.Basic
import BranchingStory.Json.Printer
import BranchingStory.Playback.Opening

/-!
# Running test cases

A run plays a story without a player: it goes on after every line and chooses the options that a
list of actions names, one for every choice. It succeeds if the story stops when all actions are
used up. `judge` compares what was seen in a run with what a test case expects.
-/

namespace BranchingStory.Case

open Playback

/-- What was seen in a run. -/
structure RunReport where
  /-- The commands that were sent. -/
  observedCommands : List Command
  /-- How many actions were used. -/
  consumedActions : Nat
  /-- How many signals the engine got. -/
  signals : Nat
  /-- How the story stopped. -/
  ending : Ending
deriving Repr, DecidableEq

/-- Why a story cannot be played from its document. -/
inductive StoryFailure
  /-- The document is no story. -/
  | load (error : Document.LoadError)
  /-- The story cannot be opened. -/
  | opening (error : OpeningError)
  /-- The engine fails on the way. -/
  | engine (error : EngineError)

/-- What is told about a story that cannot be played. -/
def StoryFailure.report (wording : Wording) : StoryFailure → Report
  | load error => error.report wording
  | opening error => error.report wording
  | engine error => error.report wording

/-- Why a run fails. -/
inductive RunError
  /-- The story cannot be played. -/
  | story (failure : StoryFailure)
  /-- There is no action for the choice that the command with this number shows. -/
  | missingAction (commandIndex : Nat)
  /-- The story stopped before all actions were used. -/
  | unusedActions (used total : Nat)
  /-- The story does not stop. -/
  | tooManySignals
  /-- The engine neither waits nor has it stopped. -/
  | unexpectedStatus (status : Status)

/-- How many signals a run may give. -/
def maxSignals : Nat := 5000

/-- The state of a run. -/
structure RunState where
  /-- The engine. -/
  engine : Engine
  /-- The actions that are left. -/
  actions : List Nat
  /-- The commands that were sent so far. -/
  commands : List Command
  /-- How many actions have been used. -/
  used : Nat
  /-- How many signals have been given. -/
  signals : Nat

namespace RunState

/-- The state after a signal that leads to an outcome. -/
def after (s : RunState) (outcome : Outcome) : Except RunError RunState :=
  match outcome.result with
  | .ok () => .ok { s with
      engine := outcome.engine
      commands := s.commands ++ outcome.commands
      signals := s.signals + 1 }
  | .error error => .error (.story (.engine error))

/-- What was seen when the story has stopped. -/
def finish (s : RunState) (ending : Ending) : Except RunError RunReport :=
  if s.actions.isEmpty then .ok ⟨s.commands, s.used, s.signals, ending⟩
  else .error (.unusedActions s.used (s.used + s.actions.length))

/-- Plays on while `rounds` lasts. Every round gives one signal; the last one only sees that the
story has stopped. -/
def run : Nat → RunState → Except RunError RunReport
  | 0, _ => .error .tooManySignals
  | rounds + 1, s =>
    match s.engine.status with
    | .awaitingAdvance => do run rounds (← s.after s.engine.advance)
    | .awaitingChoice =>
      match s.actions with
      | [] => .error (.missingAction (s.commands.length - 1))
      | index :: actions => do
        run rounds (← { s with actions, used := s.used + 1 }.after (s.engine.choose index))
    | .ended => s.finish .ended
    | .halted => s.finish .halted
    | status => .error (.unexpectedStatus status)

end RunState

/-- Plays a story by a list of actions. -/
def play (wording : Wording) (actions : List Nat) (story : Story) : Except RunError RunReport :=
  let opening := openStory wording .errors Engine.defaultLimit story
  match opening.result with
  | .error error => .error (.story (.opening error))
  | .ok engine => RunState.run maxSignals ⟨engine, actions, opening.commands, 0, 0⟩

/-- Plays the story that a text with scripts in a language describes by a list of actions. -/
def playText (language : Script.Language) (wording : Wording) (actions : List Nat)
    (text : String) : Except RunError RunReport :=
  match Story.load text language with
  | .error error => .error (.story (.load error))
  | .ok story => play wording actions story

/-! ## Judging a run -/

/-- How a run differs from what a test case expects. -/
inductive Mismatch
  /-- The story stopped in another way. -/
  | ending (expected actual : Ending)
  /-- There were more or fewer commands. -/
  | count (expected : Nat) (observed : List Command)
  /-- The commands with this number are the first that differ. -/
  | command (index : Nat) (expected actual : Command)
deriving Repr, DecidableEq

/-- The first place where two lists of one length differ, and what they have there. The places are
counted from `index` on. -/
def firstDifference : Nat → List Command → List Command → Option (Nat × Command × Command)
  | index, expected :: restExpected, actual :: restActual =>
    if expected = actual then firstDifference (index + 1) restExpected restActual
    else some (index, expected, actual)
  | _, _, _ => none

/-- How a run differs from what a test case expects, if it does. -/
def judge (expected : TestCase) (actual : RunReport) : Except Mismatch Unit :=
  if actual.ending ≠ expected.expectedEnd then
    .error (.ending expected.expectedEnd actual.ending)
  else if actual.observedCommands.length ≠ expected.expectedCommands.length then
    .error (.count expected.expectedCommands.length actual.observedCommands)
  else match firstDifference 0 expected.expectedCommands actual.observedCommands with
    | some (index, expected, actual) => .error (.command index expected actual)
    | none => .ok ()

end BranchingStory.Case
