import BranchingStory.Playback.Event
import BranchingStory.Playback.Stage
import BranchingStory.Story.Basic

/-!
# Executing a step

A step changes the scene, that is, the variables and the stage, and it decides how playback goes on.
`Story.perform` says what one step does at a place; it leaves it to the engine to go where the step
leads.

A step that cannot be done as it stands — because a field is missing, or names something that the
story does not have — is complained about and passed over. Only jumps stop playback then, because
the story would go on in the wrong place.
-/

namespace BranchingStory

namespace Playback

/-- What steps change. -/
structure Scene where
  /-- The values of the variables. -/
  vars : Variables
  /-- Who stands where. -/
  stage : Stage

/-- How playback goes on after a step. -/
inductive Move
  /-- With the next step of the node. -/
  | next
  /-- With the first step of another node, which is there. -/
  | goTo (node : String)
  /-- Not before the player gives a signal, or not at all because the story has ended. -/
  | pause (status : Status)
  /-- Not at all, because there is nowhere to go. -/
  | halt
  /-- Not at all, because a function of the author failed. -/
  | fail (error : AuthorError)

/-- What a step has done. -/
structure Performance where
  /-- The scene after the step. -/
  scene : Scene
  /-- What happened. -/
  events : List Event
  /-- How playback goes on. -/
  move : Move

/-- Passes over a step with a complaint. -/
def Scene.skip (scene : Scene) (place : Cursor) (complaint : Complaint) : Performance :=
  ⟨scene, [.complained place complaint], .next⟩

end Playback

open Playback

namespace Story

/-- Goes to another node if it is there. -/
def transfer (story : Story) (scene : Scene) (place : Cursor) (target : String) : Performance :=
  match story.nodes.resolve target with
  | .error problem => ⟨scene, [.complained place (.unresolvedTarget problem)], .halt⟩
  | .ok _ => ⟨scene, [.moved place target], .goTo target⟩

/-- Goes to another node if one is given and is there. -/
def transfer? (story : Story) (scene : Scene) (place : Cursor) : Option String → Performance
  | some target => story.transfer scene place target
  | none => ⟨scene, [.complained place .noTarget], .halt⟩

/-- Shows a place. -/
def performBackground (story : Story) (scene : Scene) (place : Cursor) :
    Option String → Performance
  | none => scene.skip place .noPlace
  | some name =>
    match story.places.get? name with
    | none => scene.skip place (.unknownPlace name)
    | some image => ⟨scene, [.displayed (.setBackground name image)], .next⟩

/-- Puts a character at a position. Whoever stands there is replaced, and if the character stands
elsewhere it leaves that position first. -/
def enter (scene : Scene) (character image : String) (position : Position) : Performance :=
  let sprite := Event.displayed (.setSprite position character image)
  let (stage, events) := match scene.stage.positionOf? character with
    | some before =>
      if before = position then (scene.stage, [])
      else (scene.stage.set before none, [Event.displayed (.clearSprite before)])
    | none => (scene.stage, [])
  ⟨{ scene with stage := stage.set position (some character) }, events ++ [sprite], .next⟩

/-- Shows a character in a pose. -/
def performAppearance (story : Story) (scene : Scene) (place : Cursor) :
    Option String → Option String → Option Position → Performance
  | some name, some pose, some position =>
    match story.characters.get? name with
    | none => scene.skip place (.unknownCharacter name)
    | some character =>
      match character.poses.get? pose with
      | none => scene.skip place (.unknownPose name pose)
      | some image => enter scene name image position
  | _, _, _ => scene.skip place .incompleteAppearance

/-- Takes a character off the stage. -/
def performDisappearance (scene : Scene) (place : Cursor) : Option String → Performance
  | none => scene.skip place .nobodyToHide
  | some name =>
    match scene.stage.positionOf? name with
    | none => ⟨scene, [.notOnStage place name], .next⟩
    | some position =>
      ⟨{ scene with stage := scene.stage.set position none },
        [.displayed (.clearSprite position)], .next⟩

/-- The name to show for a speaker, and the complaint about the speaker, if there is one. -/
def speakerName (story : Story) : Option String → Option String × Option Complaint
  | none => (none, some .noSpeaker)
  | some name =>
    match story.characters.get? name with
    | some character => (some character.displayName, none)
    | none => (some name, some (.unknownSpeaker name))

/-- Shows a line of a dialogue. -/
def performDialogue (story : Story) (scene : Scene) (place : Cursor) (speaker : Option String) :
    Option String → Performance
  | none => scene.skip place .noDialogueText
  | some text =>
    let (name, complaint) := story.speakerName speaker
    ⟨scene, (complaint.map (Event.complained place)).toList ++
      [.displayed (.setDialogue name text)], .pause .awaitingAdvance⟩

/-- Shows a line of the narration. -/
def performNarration (scene : Scene) (place : Cursor) : Option String → Performance
  | none => scene.skip place .noNarrationText
  | some text => ⟨scene, [.displayed (.setDialogue none text)], .pause .awaitingAdvance⟩

/-- Stores a value in a variable. -/
def store (scene : Scene) (place : Cursor) (key : String) (value : Value) : Performance :=
  ⟨{ scene with vars := scene.vars.insert key value }, [.stored place key value], .next⟩

/-- Sets a variable. -/
def performAssignment (scene : Scene) (place : Cursor) :
    Option String → Option ValueSource → Performance
  | some key, some (.literal value) => store scene place key value
  | some key, some (.computed compute) =>
    match compute scene.vars with
    | .ok value => store scene place key value
    | .error error => ⟨scene, [], .fail error⟩
  | _, _ => scene.skip place .incompleteAssignment

/-- Goes to the node for the outcome of a test. If the test is false and there is no node for that,
playback goes on with the next step. -/
def performBranch (story : Story) (scene : Scene) (place : Cursor) (test : Option Test)
    (target otherwise : Option String) : Performance :=
  match test with
  | none => scene.skip place .noTest
  | some test =>
    match test scene.vars with
    | .error error => ⟨scene, [], .fail error⟩
    | .ok true => story.transfer? scene place target
    | .ok false =>
      match otherwise with
      | some target => story.transfer scene place target
      | none => ⟨scene, [], .next⟩

/-- The text that is shown for an option. -/
def shownLabel (o : ChoiceOption) : String :=
  o.label.getD ""

/-- Shows the options of a choice. -/
def performChoice (scene : Scene) (place : Cursor) (prompt : Option String)
    (options : List ChoiceOption) : Performance :=
  if options.isEmpty then scene.skip place .noOptions
  else ⟨scene, [.displayed (.showChoices prompt (options.map shownLabel))], .pause .awaitingChoice⟩

/-- What a step does at a place. -/
def perform (story : Story) (scene : Scene) (place : Cursor) : Step → Performance
  | .background name => story.performBackground scene place name
  | .showCharacter name pose position => story.performAppearance scene place name pose position
  | .hideCharacter name => performDisappearance scene place name
  | .dialogue speaker text => story.performDialogue scene place speaker text
  | .narration text => performNarration scene place text
  | .setVariable key source => performAssignment scene place key source
  | .jump target => story.transfer? scene place target
  | .branch test target otherwise => story.performBranch scene place test target otherwise
  | .choice prompt options => performChoice scene place prompt options
  | .ending => ⟨scene, [.displayed .showEnded], .pause .ended⟩
  | .unrecognized kind => scene.skip place (.unknownKind kind)

end Story

end BranchingStory
