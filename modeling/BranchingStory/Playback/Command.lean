import BranchingStory.Story.Position

/-!
# Display commands

Whatever draws a story is driven by commands. In JSON texts a command is an object whose field
`kind` names it; `toJson` writes this form and `ofJson?` reads it back. Reading also accepts an
array that holds the name and then the fields in order, passes over fields that a command does not
have, and takes a field that is not there for `null`.
-/

namespace BranchingStory.Playback

/-- A command to whatever draws the story. -/
inductive Command
  /-- Show the image of a place behind the stage. -/
  | setBackground (place image : String)
  /-- Show the image of a character at a position. -/
  | setSprite (position : Position) (character image : String)
  /-- Show nobody at a position. -/
  | clearSprite (position : Position)
  /-- Show a line; nobody says a line that the story tells. -/
  | setDialogue (speaker : Option String) (text : String)
  /-- Show the labels of the options of a choice. -/
  | showChoices (prompt : Option String) (labels : List String)
  /-- Show that the story has ended. -/
  | showEnded
deriving Repr, DecidableEq, Inhabited

namespace Command

/-- The name of a command in JSON texts. -/
def kind : Command → String
  | setBackground _ _ => "setBackground"
  | setSprite _ _ _ => "setCharacterSprite"
  | clearSprite _ => "clearCharacterSprite"
  | setDialogue _ _ => "setDialogue"
  | showChoices _ _ => "showChoices"
  | showEnded => "showEnded"

/-- A text in JSON, or `null` if there is none. -/
def optionToJson : Option String → Json
  | some s => .string s
  | none => .null

/-- The fields of a command besides its name. -/
def fields : Command → List (String × Json)
  | setBackground place image => [("placeId", .string place), ("image", .string image)]
  | setSprite position character image =>
    [("position", .string position.name), ("characterId", .string character),
      ("image", .string image)]
  | clearSprite position => [("position", .string position.name)]
  | setDialogue speaker text => [("speaker", optionToJson speaker), ("text", .string text)]
  | showChoices prompt labels =>
    [("prompt", optionToJson prompt), ("labels", .array (labels.map .string))]
  | showEnded => []

/-- A command as a JSON object. -/
def toJson (command : Command) : Json :=
  .object (("kind", .string command.kind) :: command.fields)

/-! ## Reading -/

/-- The names of the fields of the commands with a name, in order. -/
def fieldNames? : String → Option (List String)
  | "setBackground" => some ["placeId", "image"]
  | "setCharacterSprite" => some ["position", "characterId", "image"]
  | "clearCharacterSprite" => some ["position"]
  | "setDialogue" => some ["speaker", "text"]
  | "showChoices" => some ["prompt", "labels"]
  | "showEnded" => some []
  | _ => none

/-- The text that a JSON value is. -/
def text? : Json → Option String
  | .string s => some s
  | _ => none

/-- The text that a JSON value is, unless it is `null`. -/
def optionalText? : Json → Option (Option String)
  | .null => some none
  | .string s => some (some s)
  | _ => none

/-- The texts in a JSON array. -/
def texts? : Json → Option (List String)
  | .array items => items.mapM text?
  | _ => none

/-- The command with a name and fields. -/
def ofFields? (kind : String) (fields : List (String × Json)) : Option Command :=
  let field name := (fields.lookup name).getD .null
  match kind with
  | "setBackground" => do return setBackground (← text? (field "placeId")) (← text? (field "image"))
  | "setCharacterSprite" => do
    return setSprite (← Position.ofJson? (field "position")) (← text? (field "characterId"))
      (← text? (field "image"))
  | "clearCharacterSprite" => do return clearSprite (← Position.ofJson? (field "position"))
  | "setDialogue" => do
    return setDialogue (← optionalText? (field "speaker")) (← text? (field "text"))
  | "showChoices" => do
    return showChoices (← optionalText? (field "prompt")) (← texts? (field "labels"))
  | "showEnded" => some showEnded
  | _ => none

/-- Whether a name occurs at most once among fields. -/
def atMostOnce (fields : List (String × Json)) (name : String) : Bool :=
  (fields.filter fun field => field.1 = name).length ≤ 1

/-- The command that a JSON value is. -/
def ofJson? : Json → Option Command
  | .object fields => do
    let kind ← text? ((fields.lookup "kind").getD .null)
    let names ← fieldNames? kind
    if ("kind" :: names).all (atMostOnce fields) then ofFields? kind fields else none
  | .array (.string kind :: items) => do
    let names ← fieldNames? kind
    if names.length = items.length then ofFields? kind (names.zip items) else none
  | _ => none

end Command

end BranchingStory.Playback
