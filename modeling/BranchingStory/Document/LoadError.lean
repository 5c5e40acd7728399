import BranchingStory.Json.Printer
import BranchingStory.Story.AuthorError
import BranchingStory.Story.Position

/-!
# Errors of story documents

What keeps a document from being a story.
-/

namespace BranchingStory.Document

/-- Why a document is no story. -/
inductive LoadError
  /-- The text is no record of a story. -/
  | json (problem : Json.Problem)
  /-- The name of a variable is no identifier. -/
  | variableName (name : String)
  /-- The nodes are not given as an object. -/
  | nodesShape
  /-- The name of a node or group cannot be part of an address. -/
  | nodeName (path name : String)
  /-- A node is neither an array nor an object. -/
  | nodeShape (path : String)
  /-- A step is not an object. -/
  | stepShape (path : String) (index : Nat)
  /-- A field is neither a string nor `null`. -/
  | textExpected (location : Location) (found : Json)
  /-- The options of a choice are neither an array nor `null`. -/
  | optionsExpected (location : Location) (found : Json)
  /-- An option does not have two or three parts. -/
  | optionShape (location : Location)
  /-- No position has this name. -/
  | unknownPosition (location : Location) (name : String)
  /-- A value of a variable holds `null`. -/
  | unusableValue (location : Location)
  /-- A script that is to be one expression cannot be read. -/
  | formula (source : String) (problem : Script.Problem) (location : Location)
  /-- A script that is to be a sequence of statements cannot be read. -/
  | program (source : String) (problem : Script.Problem) (location : Location)

namespace LoadError

/-- The code of an error. -/
def code : LoadError → String
  | json _ => "LOADER_JSON_INVALID"
  | variableName _ => "LOADER_VARIABLE_NAME"
  | nodesShape => "LOADER_NODE_SHAPE"
  | nodeName _ _ => "LOADER_NODE_NAME"
  | nodeShape _ => "LOADER_NODE_SHAPE"
  | stepShape _ _ => "LOADER_STEP_SHAPE"
  | textExpected _ _ => "LOADER_FIELD_TYPE"
  | optionsExpected _ _ => "LOADER_FIELD_TYPE"
  | optionShape _ => "LOADER_OPTION_SHAPE"
  | unknownPosition _ _ => "LOADER_POSITION_INVALID"
  | unusableValue _ => "LOADER_FIELD_TYPE"
  | formula _ _ _ => "LOADER_SCRIPT_SYNTAX"
  | program _ _ _ => "LOADER_SCRIPT_SYNTAX"

/-- The message of an error. -/
def message (wording : Wording) : LoadError → String
  | json problem => "Invalid story JSON: " ++ wording.json problem
  | variableName name => "Variable name \"" ++ name ++ "\" is not an identifier."
  | nodesShape => "\"nodes\" must be an object of nodes and groups."
  | nodeName _ name =>
    "Node name \"" ++ name ++ "\" must be non-empty and contain no '.' or whitespace."
  | nodeShape _ => "A node must be an array of steps or an object of child nodes."
  | stepShape _ _ => "A step must be an object with a \"kind\" field."
  | textExpected _ found => "Expected a string or null, got " ++ found.compact ++ "."
  | optionsExpected _ found => "Expected an array of options, got " ++ found.compact ++ "."
  | optionShape _ =>
    "A choice option must be [label, target-or-null] or [label, target-or-null, effect]."
  | unknownPosition _ name => Position.unknownMessage name
  | unusableValue _ =>
    "Unsupported variable value: data did not match any variant of untagged enum SpValue"
  | formula source problem _ =>
    "Invalid expression \"" ++ source ++ "\": " ++ wording.script problem
  | program source problem _ => "Invalid effect \"" ++ source ++ "\": " ++ wording.script problem

/-- The place that an error is about. -/
def location? : LoadError → Option Location
  | json _ => none
  | variableName _ => some (.story "variables")
  | nodesShape => some (.story "nodes")
  | nodeName path _ => some (.node path)
  | nodeShape path => some (.node path)
  | stepShape path index => some (.step path index)
  | textExpected location _ => some location
  | optionsExpected location _ => some location
  | optionShape location => some location
  | unknownPosition location _ => some location
  | unusableValue location => some location
  | formula _ _ location => some location
  | program _ _ location => some location

/-- What is told about an error. -/
def report (wording : Wording) (e : LoadError) : Report where
  code := e.code
  message := e.message wording
  location := e.location?.map Location.text

end LoadError

end BranchingStory.Document
