import BranchingStory.Document.Names
import BranchingStory.Document.Step
import BranchingStory.Json.Draft
import BranchingStory.Log
import BranchingStory.Story.Basic

/-!
# Story documents

A story is written as a JSON document: a record with the address of the node to start with, the
variables, the nodes, the characters and the places. All of these may be missing.

`parse` reads the record, and `story` makes a story of it. What is merely missing stays missing, for
a review to report it; an error is what no story can be made of. Objects are read in the order of
their names, which decides which of several errors is found.
-/

namespace BranchingStory

/-- The record that a story is written as. -/
structure Document where
  /-- The address of the node to start with. -/
  start : Option String := none
  /-- The variables. -/
  vars : Option Variables := none
  /-- The nodes; all objects in them are dictionaries. -/
  nodes : Option Json := none
  /-- The characters. -/
  characters : Dict Character := []
  /-- The images of the places. -/
  places : Dict String := []

namespace Document

/-! ## Reading the record -/

/-- How deep arrays and objects may lie in one another in a field of the record. -/
def fieldDepth : Nat := Json.maxDepth - 1

/-- The text in a draft. -/
def textOf : Json.Draft → Except Json.Problem String
  | .string (some s) => .ok s
  | .string none => .error .unpairedSurrogate
  | _ => .error (.unexpectedShape "a string")

/-- The dictionary that a draft is, with its values read by `read`. -/
def dictOf {α : Type} (read : Json.Draft → Except Json.Problem α) :
    Json.Draft → Except Json.Problem (Dict α)
  | .object fields => do
    let entries ← fields.mapM fun field => do
      match field with
      | (some name, value) => return (name, ← read value)
      | (none, _) => throw .unpairedSurrogate
    return Dict.ofList entries
  | _ => .error (.unexpectedShape "an object")

/-- What a draft is, unless it is `null`. -/
def optionalOf {α : Type} (read : Json.Draft → Except Json.Problem α) :
    Json.Draft → Except Json.Problem (Option α)
  | .null => .ok none
  | draft => do return some (← read draft)

/-- The variables in a draft. -/
def variablesOf (draft : Json.Draft) : Except Json.Problem Variables := do
  match ← draft.toJson fieldDepth with
  | .object fields =>
    match Value.ofJson? (.object fields) with
    | some (.map entries) => return entries
    | _ => throw (.unexpectedShape "values without null")
  | _ => throw (.unexpectedShape "an object")

/-- A field of a record, read by `read`, or what stands for a field that is not there. -/
def fieldOf {α : Type} (fields : List (String × Json.Draft)) (name : String)
    (read : Json.Draft → Except Json.Problem α) (missing : Except Json.Problem α) :
    Except Json.Problem α :=
  match fields.lookup name with
  | some draft => read draft
  | none => missing

/-- The character in a draft. -/
def characterOf (draft : Json.Draft) : Except Json.Problem Character := do
  let fields ← draft.record ["displayName", "poses"]
  let displayName ← fieldOf fields "displayName" textOf (.error (.missingField "displayName"))
  return ⟨displayName, ← fieldOf fields "poses" (dictOf textOf) (.ok [])⟩

/-- The record in a draft. -/
def ofDraft (draft : Json.Draft) : Except Json.Problem Document := do
  let fields ← draft.record ["start", "variables", "nodes", "characters", "places"]
  let start ← fieldOf fields "start" (optionalOf textOf) (.ok none)
  let vars ← fieldOf fields "variables" (optionalOf variablesOf) (.ok none)
  let nodes ← fieldOf fields "nodes" (optionalOf fun draft => draft.toJson fieldDepth) (.ok none)
  let characters ← fieldOf fields "characters" (dictOf characterOf) (.ok [])
  let places ← fieldOf fields "places" (dictOf textOf) (.ok [])
  return ⟨start, vars, nodes.map Json.sorted, characters, places⟩

/-- The record that a text consists of. -/
def parse (text : String) : Except Json.Problem Document := do
  ofDraft (← Json.Draft.parse text)

/-! ## Making a story -/

/-- The address of a child of the group at an address; the outermost group has the empty address. -/
def childPath (path name : String) : String :=
  if path = "" then name else path ++ "." ++ name

mutual

/-- The tree that a JSON value at an address is. -/
def readTree (language : Script.Language) (path : String) : Json → Except LoadError NodeTree
  | .object children => do return .group (← readChildren language path children)
  | .array items => do
    return .leaf (← items.zipIdx.mapM fun (json, index) => readStep path index json language)
  | _ => .error (.nodeShape path)

/-- The children of the group at an address. -/
def readChildren (language : Script.Language) (path : String) :
    List (String × Json) → Except LoadError (List (String × NodeTree))
  | [] => .ok []
  | (name, json) :: rest => do
    if !isNodeName name then throw (.nodeName (childPath path name) name)
    let child ← readTree language (childPath path name) json
    return (name, child) :: (← readChildren language path rest)

end

/-- The tree of the nodes of a document. -/
def readNodes (language : Script.Language) : Option Json → Except LoadError NodeTree
  | none => .ok (.group [])
  | some .null => .ok (.group [])
  | some (.object children) => do return .group (← readChildren language "" children)
  | some _ => .error .nodesShape

/-- All names of variables are identifiers. -/
def checkVariables : Option Variables → Except LoadError Unit
  | none => .ok ()
  | some vars =>
    match vars.keys.find? fun name => !isVariableName name with
    | some name => .error (.variableName name)
    | none => .ok ()

/-- The story that a document with scripts in a language describes. -/
def story (d : Document) (language : Script.Language) : Except LoadError Story := do
  checkVariables d.vars
  let nodes ← readNodes language d.nodes
  return ⟨d.start.getD "", d.vars, nodes, d.characters, d.places⟩

end Document

/-- The story that a text with scripts in a language describes. -/
def Story.load (text : String) (language : Script.Language) : Except Document.LoadError Story := do
  (← (Document.parse text).mapError .json).story language

/-- The log line about a story that was read. -/
def Story.loadedLine (story : Story) : LogLine where
  level := .debug
  message := "loaded story: start=" ++ Text.quoted story.start ++ " nodes=" ++
    toString story.nodes.leafPaths.length ++ " characters=" ++ toString story.characters.length ++
    " places=" ++ toString story.places.length

end BranchingStory
