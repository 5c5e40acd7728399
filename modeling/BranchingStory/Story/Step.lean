import BranchingStory.Story.AuthorError
import BranchingStory.Story.Position
import BranchingStory.Value.Basic

/-!
# Steps

A node of a story is a list of steps. The fields of a step may be missing, since a story is read
from a document that somebody is still writing: a review reports such fields, and playback passes
over the steps that it cannot do without them.

What depends on the variables — a value to be computed, the test of a branch, the effect of an
option — is a function of the author. The story does not know how the author wrote it.
-/

namespace BranchingStory

/-- Computes the new value of one variable from all variables. -/
abbrev Compute := Variables → Except AuthorError Value

/-- Decides a branch. -/
abbrev Test := Variables → Except AuthorError Bool

/-- Changes variables. The variables that it leaves behind count also if it fails. -/
abbrev Effect := Variables → Variables × Except AuthorError Unit

/-- Where the new value of a variable comes from. -/
inductive ValueSource
  /-- It is given. -/
  | literal (value : Value)
  /-- It is computed. -/
  | computed (compute : Compute)

/-- An option of a choice. -/
structure ChoiceOption where
  /-- The text of the option. -/
  label : Option String
  /-- The node to go to; without one the story goes on after the choice. -/
  target : Option String
  /-- What happens to the variables before that. -/
  effect : Option Effect

/-- One instruction of a node. -/
inductive Step
  /-- Shows a place. -/
  | background (place : Option String)
  /-- Puts a character on the stage. -/
  | showCharacter (character pose : Option String) (position : Option Position)
  /-- Takes a character off the stage. -/
  | hideCharacter (character : Option String)
  /-- Lets a character say a line. -/
  | dialogue (speaker text : Option String)
  /-- Tells a line. -/
  | narration (text : Option String)
  /-- Sets a variable. -/
  | setVariable (key : Option String) (source : Option ValueSource)
  /-- Goes to another node. -/
  | jump (target : Option String)
  /-- Goes to one of two nodes, or on, as a test comes out. -/
  | branch (test : Option Test) (target otherwise : Option String)
  /-- Lets the player choose. -/
  | choice (prompt : Option String) (options : List ChoiceOption)
  /-- Ends the story. -/
  | ending
  /-- A step of a kind that nobody knows. -/
  | unrecognized (kind : String)

namespace Step

/-- The name of the kind of a step. -/
def kind : Step → String
  | background _ => "background"
  | showCharacter _ _ _ => "show_character"
  | hideCharacter _ => "hide_character"
  | dialogue _ _ => "dialogue"
  | narration _ => "narration"
  | setVariable _ _ => "set_variable"
  | jump _ => "jump_to"
  | branch _ _ _ => "conditional_jump"
  | choice _ _ => "choice"
  | ending => "end_story"
  | unrecognized kind => kind

/-- Whether a node that ends with the step hands the story on explicitly. -/
def isTerminator : Step → Bool
  | jump _ => true
  | branch _ _ _ => true
  | choice _ _ => true
  | ending => true
  | _ => false

end Step

end BranchingStory
