import BranchingStory.Review.Finding
import BranchingStory.Story.Basic

/-!
# Rules for steps

What can be wrong with a single step: fields that its kind needs are missing, or name places,
characters and poses that the story does not have. The nodes that a step names are only collected
here, since whether they are there is decided for the story as a whole.
-/

namespace BranchingStory.Review

/-- A step of a node, as the place of findings. -/
structure StepPlace where
  /-- The address of the node. -/
  path : String
  /-- The number of the step. -/
  index : Nat

namespace StepPlace

/-- A field of the step. -/
def field (p : StepPlace) (name : String) : Location := .field p.path p.index name

/-- An option of the step. -/
def option (p : StepPlace) (number : Nat) : Location := .option p.path p.index number

/-- The finding that a field is missing, if it is. -/
def requires {α : Type} (p : StepPlace) (severity : Severity) (kind name : String) :
    Option α → List Finding
  | some _ => []
  | none => [⟨severity, p.field name, .missingField kind name⟩]

/-- The finding that a field is missing or does not name a character of the story. -/
def requiresCharacter (p : StepPlace) (story : Story) (kind name : String) :
    Option String → List Finding
  | none => p.requires (α := String) .error kind name none
  | some character =>
    if story.characters.contains character then []
    else [⟨.error, p.field name, .unknownCharacter kind character⟩]

end StepPlace

/-- The finding that a pose is missing, or that a character of the story does not have it. -/
def poseFindings (story : Story) (p : StepPlace) (character : Option String) :
    Option String → List Finding
  | none => p.requires (α := String) .warning "show_character" "pose" none
  | some pose =>
    match character with
    | none => []
    | some name =>
      match story.characters.get? name with
      | none => []
      | some found =>
        if found.poses.contains pose then [] else [⟨.error, p.field "pose", .unknownPose name pose⟩]

/-- The findings about the place that a step shows. -/
def placeFindings (story : Story) (p : StepPlace) : Option String → List Finding
  | none => p.requires (α := String) .error "background" "id" none
  | some name =>
    if story.places.contains name then []
    else [⟨.error, p.field "id", .unknownPlace "background" name⟩]

/-- Whether an option has a label that can be read. -/
def hasLabel (o : ChoiceOption) : Bool :=
  o.label.getD "" ≠ ""

/-- The findings about the options of a choice. -/
def optionFindings (p : StepPlace) (options : List ChoiceOption) : List Finding :=
  (if options.isEmpty then [⟨.error, p.field "options", .noOptions⟩] else []) ++
    options.zipIdx.filterMap fun (o, number) =>
      if hasLabel o then none else some ⟨.error, p.option number, .noLabel⟩

/-- The findings about a step, apart from the nodes that it names. -/
def stepFindings (story : Story) (p : StepPlace) (step : Step) : List Finding :=
  match step with
  | .background place => placeFindings story p place
  | .showCharacter character pose position =>
    p.requiresCharacter story "show_character" "id" character ++
      poseFindings story p character pose ++
      p.requires .warning "show_character" "position" position
  | .hideCharacter character => p.requires .error "hide_character" "id" character
  | .dialogue speaker text =>
    p.requiresCharacter story "dialogue" "who" speaker ++
      p.requires .error "dialogue" "text" text
  | .narration text => p.requires .error "narration" "text" text
  | .setVariable key source =>
    p.requires .error "set_variable" "key" key ++ p.requires .error "set_variable" "value" source
  | .jump target => p.requires .error "jump_to" "nodeId" target
  | .branch test target _ =>
    p.requires .error "conditional_jump" "test" test ++
      p.requires .error "conditional_jump" "thenNodeId" target
  | .choice prompt options =>
    p.requires .warning "choice" "prompt" prompt ++ optionFindings p options
  | .ending => []
  | .unrecognized kind => [⟨.error, .step p.path p.index, .unknownKind kind⟩]

/-- A node that a step names. -/
structure Reference where
  /-- The place in the step that names it. -/
  location : Location
  /-- Its address. -/
  target : String
deriving Repr, DecidableEq

/-- The reference that a field holds, if it holds one. -/
def StepPlace.reference (p : StepPlace) (name : String) (target : Option String) :
    List Reference :=
  (target.map fun target => ⟨p.field name, target⟩).toList

/-- The nodes that a step names. -/
def stepReferences (p : StepPlace) : Step → List Reference
  | .jump target => p.reference "nodeId" target
  | .branch _ target otherwise =>
    p.reference "thenNodeId" target ++ p.reference "elseNodeId" otherwise
  | .choice _ options =>
    options.zipIdx.filterMap fun (o, number) => o.target.map fun target => ⟨p.option number, target⟩
  | _ => []

end BranchingStory.Review
