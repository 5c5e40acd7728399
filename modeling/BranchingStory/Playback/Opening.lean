import BranchingStory.Playback.Engine
import BranchingStory.Review.Gate

/-!
# Opening a story

A story is opened by reviewing it, asking a gate whether it may be played, and starting an engine
for it. All findings are logged, whether the gate lets the story through or not.
-/

namespace BranchingStory.Playback

/-- Why a story cannot be opened. -/
inductive OpeningError
  /-- The gate is closed. -/
  | blocked (blocked : Review.Blocked)
  /-- The engine does not start. -/
  | engine (error : EngineError)

/-- What is told about a story that cannot be opened. -/
def OpeningError.report (wording : Wording) : OpeningError → Report
  | blocked b => b.report
  | engine error => error.report wording

/-- What comes of opening a story. -/
structure Opening where
  /-- The log lines about it. -/
  lines : List LogLine
  /-- The commands that were sent. -/
  commands : List Command
  /-- The engine, if the story could be opened. -/
  result : Except OpeningError Engine

/-- The log line about a story that a gate has let through. -/
def admittedLine (story : Story) (findings : List Review.Finding) : LogLine where
  level := .info
  message := "starting story at \"" ++ story.start ++ "\" with " ++ toString findings.length ++
    " finding(s)"

/-- Opens a story. -/
def openStory (wording : Wording) (gate : Review.Gate) (limit : Nat) (story : Story) : Opening :=
  let told := (Review.review story).map Review.Finding.line
  match gate.admit story with
  | .error blocked => ⟨told, [], .error (.blocked blocked)⟩
  | .ok findings =>
    let outcome := (Engine.idle story limit).start
    ⟨told ++ admittedLine story findings :: Event.lines wording outcome.events,
      outcome.commands,
      match outcome.result with
      | .error error => .error (.engine error)
      | .ok () => .ok outcome.engine⟩

end BranchingStory.Playback
