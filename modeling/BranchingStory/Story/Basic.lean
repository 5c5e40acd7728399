import BranchingStory.Story.Tree

/-!
# Stories

A story is what an author writes: the tree of its nodes, the node to start with, the variables at
the start, and the characters and places that its steps name. Playing it does not change it.
-/

namespace BranchingStory

/-- A character of a story. -/
structure Character where
  /-- The name that the player sees. -/
  displayName : String
  /-- The images of the character, by pose. -/
  poses : Dict String
deriving Repr, DecidableEq

/-- A story. -/
structure Story where
  /-- The address of the node to start with; the empty text if none is given. -/
  start : String
  /-- The variables at the start, if any are declared. -/
  vars : Option Variables
  /-- The nodes. -/
  nodes : NodeTree
  /-- The characters, by the names that steps use. -/
  characters : Dict Character
  /-- The images of the places, by the names that steps use. -/
  places : Dict String

/-- The variables with which the story is played from the start. -/
def Story.initialVariables (story : Story) : Variables :=
  story.vars.getD []

end BranchingStory
