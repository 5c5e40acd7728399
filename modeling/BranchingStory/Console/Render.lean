import BranchingStory.Playback.Command

/-!
# Commands as lines

How display commands look on a terminal.
-/

namespace BranchingStory.Console

open Playback

/-- The line that shows the label of an option. -/
def optionLine (label : String) (number : Nat) : String :=
  "  [" ++ toString number ++ "] " ++ label

/-- The lines that show a command. -/
def renderLines : Command → List String
  | .setBackground place image => ["[scene: " ++ place ++ " (" ++ image ++ ")]"]
  | .setSprite position character image =>
    ["[" ++ character ++ " enters " ++ position.name ++ " (" ++ image ++ ")]"]
  | .clearSprite position => ["[" ++ position.name ++ " clears]"]
  | .setDialogue (some speaker) text => ["", speaker ++ ": " ++ text]
  | .setDialogue none text => ["", text]
  | .showChoices prompt labels =>
    "" :: prompt.toList ++ labels.zipIdx.map fun (label, number) => optionLine label number
  | .showEnded => ["", "[END]"]

/-- The lines that show commands, one after the other. -/
def commandLines (commands : List Command) : List String :=
  commands.flatMap renderLines

/-- Lines as a text. -/
def unlines (lines : List String) : String :=
  String.join (lines.map fun line => line ++ "\n")

end BranchingStory.Console
