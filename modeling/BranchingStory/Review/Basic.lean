import BranchingStory.Review.StepRules
import BranchingStory.Text.Blank

/-!
# Reviewing a story

`review` lists all findings about a story: first those about the story itself, then those about its
steps, then the nodes that steps name and that are not there, the nodes that no step leads to, and
the nodes that stop without handing the story on.
-/

namespace BranchingStory.Review

/-- Whether a story says where it starts. -/
def hasStart (story : Story) : Bool :=
  !Text.isBlankText story.start

/-- A finding, if a condition holds. -/
def findingIf (condition : Bool) (severity : Severity) (location : Location) (issue : Issue) :
    List Finding :=
  if condition then [⟨severity, location, issue⟩] else []

/-- The finding that the node to start with is not there. -/
def startFindings (story : Story) : List Finding :=
  match hasStart story, story.nodes.resolve story.start with
  | true, .error problem => [⟨.error, .story "start", .startUnresolved problem⟩]
  | _, _ => []

/-- The findings about the story itself. -/
def storyFindings (story : Story) : List Finding :=
  findingIf (!hasStart story) .error (.story "start") .noStart ++
    findingIf story.nodes.isEmpty .error (.story "nodes") .noNodes ++
    findingIf story.vars.isNone .warning (.story "variables") .noVariables ++
    startFindings story

/-- The steps of a node with their places. -/
def placedSteps (leaf : String × List Step) : List (StepPlace × Step) :=
  leaf.2.zipIdx.map fun (step, index) => (⟨leaf.1, index⟩, step)

/-- The findings about a node and its steps. -/
def leafFindings (story : Story) (leaf : String × List Step) : List Finding :=
  findingIf leaf.2.isEmpty .warning (.node leaf.1) .noSteps ++
    (placedSteps leaf).flatMap fun (p, step) => stepFindings story p step

/-- The nodes that the steps of a story name. -/
def references (story : Story) : List Reference :=
  story.nodes.leaves.flatMap fun leaf =>
    (placedSteps leaf).flatMap fun (p, step) => stepReferences p step

/-- The issue with the address of a node, if it is not the address of a leaf. -/
def targetIssue? (story : Story) (target : String) : Option Issue :=
  if target ∈ story.nodes.leafPaths then none
  else match story.nodes.resolve target with
    | .error (.isGroup _) => some (.targetIsGroup target)
    | _ => some (.targetMissing target)

/-- The findings about the nodes that steps name. -/
def referenceFindings (story : Story) : List Finding :=
  (references story).filterMap fun reference =>
    (targetIssue? story reference.target).map fun issue => ⟨.error, reference.location, issue⟩

/-- Whether a story starts at a node or some step names it. -/
def isReachable (story : Story) (path : String) : Bool :=
  path = story.start || ((references story).map Reference.target).contains path

/-- The findings about nodes that nothing leads to. -/
def reachFindings (story : Story) : List Finding :=
  story.nodes.leafPaths.flatMap fun path =>
    findingIf (!isReachable story path) .warning (.node path) .unreachable

/-- The finding that a node stops without handing the story on. -/
def endFinding? (leaf : String × List Step) : Option Finding :=
  leaf.2.getLast?.bind fun last =>
    if last.isTerminator then none else some ⟨.warning, .node leaf.1, .abruptEnd last.kind⟩

/-- All findings about a story. -/
def review (story : Story) : List Finding :=
  storyFindings story ++ story.nodes.leaves.flatMap (leafFindings story) ++
    referenceFindings story ++ reachFindings story ++
    story.nodes.leaves.filterMap endFinding?

/-- Whether there are errors among findings. -/
def hasErrors (findings : List Finding) : Bool :=
  findings.any Finding.isError

/-- Whether there are warnings among findings. -/
def hasWarnings (findings : List Finding) : Bool :=
  findings.any Finding.isWarning

end BranchingStory.Review
