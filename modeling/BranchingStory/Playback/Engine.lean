import BranchingStory.Playback.Scene

/-!
# The engine

An engine plays a story: it executes steps until one of them needs the player, and goes on when the
player gives a signal. A call gives the engine after it, whether it failed, and the journal of what
happened.

A walk is what happens between two signals. Since a story may go in circles, a walk executes no more
steps than the limit of the engine; a story that needs more is halted with an error.
-/

namespace BranchingStory.Playback

/-- A story being played. -/
structure Engine where
  /-- The story. -/
  story : Story
  /-- How many steps a walk may execute. -/
  limit : Nat
  /-- The variables and the stage. -/
  scene : Scene
  /-- What the engine is doing. -/
  status : Status
  /-- Where it is, once it has started. -/
  cursor : Option Cursor

/-- Why a call fails. -/
inductive EngineError
  /-- The engine has already been started. -/
  | alreadyStarted
  /-- The node to start with is not there. -/
  | startUnresolved (start : String) (problem : NodeTree.AddressProblem)
  /-- No line is shown that could have been read. -/
  | notAwaitingAdvance (status : Status) (place : Option Cursor)
  /-- No options are shown that could be chosen. -/
  | notAwaitingChoice (status : Status) (place : Option Cursor)
  /-- There is no choice where the engine waits for one. -/
  | choiceMissing (place : Option Cursor)
  /-- The choice has fewer options. -/
  | optionOutOfRange (index count : Nat) (place : Option Cursor)
  /-- The node that the engine is at is not there. -/
  | nodeMissing (problem : NodeTree.AddressProblem)
  /-- A walk needs more steps than it may have. -/
  | limitExceeded (limit : Nat) (place : Option Cursor)
  /-- A function of the author failed. -/
  | author (error : AuthorError)
deriving Repr, DecidableEq

namespace EngineError

/-- How the place of an error is written. -/
def placeText : Option Cursor → String
  | some cursor => cursor.text
  | none => Location.stepText "<none>" 0

/-- What is told about an error. -/
def report (wording : Wording) : EngineError → Report
  | alreadyStarted =>
    ⟨"ENGINE_ALREADY_STARTED", "Engine has already been started; use restart instead.", none⟩
  | startUnresolved start problem =>
    ⟨"ENGINE_START_NOT_FOUND", "Start node cannot be resolved: " ++ problem.message,
      some start⟩
  | notAwaitingAdvance status place =>
    ⟨"ENGINE_NOT_AWAITING_ADVANCE",
      "advance is only valid while awaiting advance (status: " ++ status.name ++ ").",
      some (placeText place)⟩
  | notAwaitingChoice status place =>
    ⟨"ENGINE_NOT_AWAITING_CHOICE",
      "choose is only valid while awaiting a choice (status: " ++ status.name ++ ").",
      some (placeText place)⟩
  | choiceMissing place =>
    ⟨"ENGINE_CHOICE_STEP_MISSING", "Pending choice step is no longer at the cursor.",
      some (placeText place)⟩
  | optionOutOfRange index count place =>
    ⟨"ENGINE_CHOICE_INDEX",
      "Choice index " ++ toString index ++ " is out of range (" ++ toString count ++ " options).",
      some (placeText place)⟩
  | nodeMissing problem => problem.report
  | limitExceeded limit place =>
    ⟨"ENGINE_GUARD_EXCEEDED",
      "Execution guard exceeded " ++ toString limit ++ " steps without waiting for the player.",
      some (placeText place)⟩
  | author error => error.report wording

end EngineError

/-- What a call leads to. -/
structure Outcome where
  /-- The engine after the call. -/
  engine : Engine
  /-- Whether the call failed. -/
  result : Except EngineError Unit
  /-- What happened during the call. -/
  events : List Event

namespace Outcome

/-- What a call leads to if other things happened first. -/
def after (events : List Event) (o : Outcome) : Outcome :=
  { o with events := events ++ o.events }

/-- The commands that a call sent. -/
def commands (o : Outcome) : List Command :=
  Event.commands o.events

end Outcome

namespace Engine

/-- How many steps a walk may execute unless something else is said. -/
def defaultLimit : Nat := 10000

/-- The scene at the start of a story. -/
def openingScene (story : Story) : Scene :=
  ⟨story.initialVariables, Stage.empty⟩

/-- An engine for a story that has not been started. -/
def idle (story : Story) (limit : Nat := defaultLimit) : Engine where
  story
  limit
  scene := openingScene story
  status := .idle
  cursor := none

/-- The engine with another status. -/
def withStatus (e : Engine) (status : Status) : Engine :=
  { e with status }

/-- The engine at another place. -/
def placedAt (e : Engine) (cursor : Cursor) : Engine :=
  { e with cursor := some cursor }

/-- The engine, halted at a place. -/
def haltedAt (e : Engine) (cursor : Cursor) : Engine :=
  (e.placedAt cursor).withStatus .halted

/-- The call is done. -/
def done (e : Engine) : Outcome :=
  ⟨e, .ok (), []⟩

/-- The call fails. -/
def fail (e : Engine) (error : EngineError) : Outcome :=
  ⟨e, .error error, []⟩

/-! ## Walks -/

/-- Executes at most `budget` steps from a place on, until the story waits, stops or fails. -/
def walkFrom : Nat → Engine → Cursor → Outcome
  | 0, e, place =>
    (e.haltedAt place).fail (.limitExceeded e.limit (some place))
  | budget + 1, e, place =>
    match e.story.nodes.resolve place.node with
    | .error problem => (e.haltedAt place).done.after [.lost problem]
    | .ok steps =>
      match steps[place.index]? with
      | none => (e.haltedAt place).done.after [.exhausted place.node steps.length]
      | some step =>
        let performance := e.story.perform e.scene place step
        let events := .executing place step e.scene.vars :: performance.events
        let e := { e with scene := performance.scene }
        match performance.move with
        | .next => (walkFrom budget e place.next).after events
        | .goTo node => (walkFrom budget e (.first node)).after events
        | .pause status => ((e.placedAt place).withStatus status).done.after events
        | .halt => (e.haltedAt place).done.after events
        | .fail error =>
          ((e.haltedAt place).fail (.author error)).after (events ++ [.failed place error])

/-- Executes steps from a place on. -/
def walk (e : Engine) (place : Cursor) : Outcome :=
  walkFrom e.limit (e.withStatus .running) place

/-! ## Calls -/

/-- Starts the story. -/
def start (e : Engine) : Outcome :=
  if e.status = .idle then
    match e.story.nodes.resolve e.story.start with
    | .error problem => e.fail (.startUnresolved e.story.start problem)
    | .ok _ => (e.walk (.first e.story.start)).after [.starting e.story.start]
  else e.fail .alreadyStarted

/-- Goes on after the line that is shown. A finished story stays as it is. -/
def advance (e : Engine) : Outcome :=
  match e.status, e.cursor with
  | .awaitingAdvance, some place => e.walk place.next
  | .ended, _ => e.done.after [.ignored .advance .ended]
  | .halted, _ => e.done.after [.ignored .advance .halted]
  | status, place => e.fail (.notAwaitingAdvance status place)

/-- Goes on after an option was chosen and its effect was applied. -/
def leaveChoice (e : Engine) (place : Cursor) : Option String → Outcome
  | none => e.walk place.next
  | some target =>
    let jump := e.story.transfer e.scene place target
    match jump.move with
    | .goTo node => (e.walk (.first node)).after jump.events
    | _ => (e.withStatus .halted).done.after jump.events

/-- Applies the effect of the option with a number, which was chosen, and goes on. -/
def take (e : Engine) (place : Cursor) (index : Nat) (o : ChoiceOption) : Outcome :=
  match o.effect with
  | none => (e.leaveChoice place o.target).after [.taken place index o]
  | some effect =>
    let (vars, result) := effect e.scene.vars
    let e := { e with scene := { e.scene with vars } }
    match result with
    | .error error => e.fail (.author error)
    | .ok () => (e.leaveChoice place o.target).after [.taken place index o]

/-- Chooses an option of the choice that is shown. A finished story stays as it is. -/
def choose (e : Engine) (index : Nat) : Outcome :=
  match e.status, e.cursor with
  | .awaitingChoice, some place =>
    match e.story.nodes.resolve place.node with
    | .error problem => e.fail (.nodeMissing problem)
    | .ok steps =>
      match steps[place.index]? with
      | some (.choice _ options) =>
        match options[index]? with
        | some o => e.take place index o
        | none => e.fail (.optionOutOfRange index options.length (some place))
      | _ => e.fail (.choiceMissing (some place))
  | .ended, _ => e.done.after [.ignored (.choose index) .ended]
  | .halted, _ => e.done.after [.ignored (.choose index) .halted]
  | status, place => e.fail (.notAwaitingChoice status place)

/-- Throws playback away and starts the story again. -/
def restart (e : Engine) : Outcome :=
  (idle e.story e.limit).start.after [.restarting]

/-- What the player or the program around the engine asks for. -/
inductive Call
  /-- Start the story. -/
  | start
  /-- Go on after a line. -/
  | advance
  /-- Choose an option. -/
  | choose (index : Nat)
  /-- Start the story again. -/
  | restart
deriving Repr, DecidableEq

/-- What a call leads to. -/
def call (e : Engine) : Call → Outcome
  | .start => e.start
  | .advance => e.advance
  | .choose index => e.choose index
  | .restart => e.restart

end Engine

end BranchingStory.Playback
