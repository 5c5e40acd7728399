import BranchingStory.Document.LoadError
import BranchingStory.Script.Basic
import BranchingStory.Value.Json

/-!
# Steps in documents

A step is an object whose field `kind` says what kind of step it is, and so which of the other
fields are read. A field that is not there, or is `null`, is a missing field of the step; fields
that a kind does not have are passed over. Scripts are read here, so that a script that cannot be
read is an error of the document, with the place where it stands.
-/

namespace BranchingStory.Document

/-- A step of a document: its fields, its place, and the language of its scripts. -/
structure RawStep where
  /-- The fields. -/
  fields : Dict Json
  /-- The address of the node. -/
  path : String
  /-- The number of the step. -/
  index : Nat
  /-- The language of the scripts. -/
  language : Script.Language

namespace RawStep

/-- The place of a field. -/
def place (raw : RawStep) (name : String) : Location :=
  .field raw.path raw.index name

/-- The text in a place, unless there is none or it is `null`. -/
def optionalText (location : Location) : Option Json → Except LoadError (Option String)
  | none => .ok none
  | some .null => .ok none
  | some (.string s) => .ok (some s)
  | some other => .error (.textExpected location other)

/-- The text in a field. -/
def text (raw : RawStep) (name : String) : Except LoadError (Option String) :=
  optionalText (raw.place name) (raw.fields.get? name)

/-- The position in a field. -/
def position (raw : RawStep) (name : String) : Except LoadError (Option Position) := do
  match ← raw.text name with
  | none => return none
  | some s =>
    match Position.ofName? s with
    | some p => return some p
    | none => throw (.unknownPosition (raw.place name) s)

/-- The formula in a field, and the text that it stands in. -/
def formula (raw : RawStep) (name : String) :
    Except LoadError (Option (String × raw.language.Formula)) := do
  match ← raw.text name with
  | none => return none
  | some source =>
    match raw.language.formula? source with
    | .ok formula => return some (source, formula)
    | .error problem => throw (.formula source problem (raw.place name))

/-- The value in a field. -/
def literal (raw : RawStep) (name : String) : Except LoadError (Option Value) :=
  match raw.fields.get? name with
  | none => .ok none
  | some .null => .ok none
  | some json =>
    match Value.ofJson? json with
    | some value => .ok (some value)
    | none => .error (.unusableValue (raw.place name))

/-- Where the new value of a variable comes from: a script, if there is one, and a value otherwise.
-/
def source (raw : RawStep) : Except LoadError (Option ValueSource) := do
  match ← raw.formula "compute" with
  | some (_, formula) =>
    return some (.computed (raw.language.compute formula (raw.place "compute")))
  | none => return (← raw.literal "value").map .literal

/-- The test of a branch. -/
def test (raw : RawStep) : Except LoadError (Option Test) := do
  return (← raw.formula "test").map fun (source, formula) =>
    raw.language.test source formula (raw.place "test")

/-- The effect of the option with a number, whose parts are given. -/
def effect (raw : RawStep) (number : Nat) (parts : List Json) : Except LoadError (Option Effect) :=
  do
    match ← optionalText (.part raw.path raw.index number 2) parts[2]? with
    | none => return none
    | some source =>
      let location := Location.option raw.path raw.index number
      match raw.language.program? source with
      | .ok program => return some (raw.language.effect program location)
      | .error problem => throw (.program source problem location)

/-- The option with a number. Its effect is read first. -/
def option (raw : RawStep) (number : Nat) (json : Json) : Except LoadError ChoiceOption := do
  match json with
  | .array parts =>
    if parts.length = 2 ∨ parts.length = 3 then
      let effect ← raw.effect number parts
      let label ← optionalText (.part raw.path raw.index number 0) parts[0]?
      let target ← optionalText (.part raw.path raw.index number 1) parts[1]?
      return ⟨label, target, effect⟩
    else throw (.optionShape (.option raw.path raw.index number))
  | _ => throw (.optionShape (.option raw.path raw.index number))

/-- The options of a choice. -/
def options (raw : RawStep) : Except LoadError (List ChoiceOption) :=
  match raw.fields.get? "options" with
  | none => .ok []
  | some .null => .ok []
  | some (.array items) => items.zipIdx.mapM fun (json, number) => raw.option number json
  | some other => .error (.optionsExpected (raw.place "options") other)

/-- The step of a kind. -/
def ofKind (raw : RawStep) (kind : String) : Except LoadError Step :=
  match kind with
  | "background" => do return .background (← raw.text "id")
  | "show_character" => do
    let character ← raw.text "id"
    let pose ← raw.text "pose"
    return .showCharacter character pose (← raw.position "position")
  | "hide_character" => do return .hideCharacter (← raw.text "id")
  | "dialogue" => do
    let speaker ← raw.text "who"
    return .dialogue speaker (← raw.text "text")
  | "narration" => do return .narration (← raw.text "text")
  | "set_variable" => do
    let key ← raw.text "key"
    return .setVariable key (← raw.source)
  | "jump_to" => do return .jump (← raw.text "nodeId")
  | "conditional_jump" => do
    let test ← raw.test
    let target ← raw.text "thenNodeId"
    return .branch test target (← raw.text "elseNodeId")
  | "choice" => do
    let prompt ← raw.text "prompt"
    return .choice prompt (← raw.options)
  | "end_story" => .ok .ending
  | kind => .ok (.unrecognized kind)

/-- The step. Without a kind it is of the kind that nobody knows. -/
def step (raw : RawStep) : Except LoadError Step := do
  match ← raw.text "kind" with
  | none => return .unrecognized ""
  | some kind => raw.ofKind kind

end RawStep

/-- The step that a JSON value is, at a place. -/
def readStep (path : String) (index : Nat) (json : Json) (language : Script.Language) :
    Except LoadError Step :=
  match json with
  | .object fields => (RawStep.mk fields path index language).step
  | _ => .error (.stepShape path index)

end BranchingStory.Document
