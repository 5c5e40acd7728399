/-!
# Log lines

What the parts of the library tell about their work besides their results, by how much it matters.
-/

namespace BranchingStory

/-- How much a log line matters. -/
inductive Level
  /-- Something is wrong. -/
  | error
  /-- Something is probably wrong. -/
  | warn
  /-- Something worth knowing happened. -/
  | info
  /-- A turn that explains what comes later. -/
  | debug
  /-- Every single step. -/
  | trace
deriving Repr, DecidableEq, Inhabited

namespace Level

/-- The levels from the most severe one on. -/
def all : List Level := [error, warn, info, debug, trace]

/-- How many levels are more severe. -/
def rank : Level → Nat
  | error => 0
  | warn => 1
  | info => 2
  | debug => 3
  | trace => 4

/-- The name of a level. -/
def name : Level → String
  | error => "ERROR"
  | warn => "WARN"
  | info => "INFO"
  | debug => "DEBUG"
  | trace => "TRACE"

end Level

/-- A line of a log. -/
structure LogLine where
  /-- How much it matters. -/
  level : Level
  /-- What it says. -/
  message : String
deriving Repr, DecidableEq

/-- How a log line is written. -/
def LogLine.text (line : LogLine) : String :=
  line.level.name ++ " " ++ line.message

/-- The lines that matter at least as much as a level. -/
def LogLine.upTo (level : Level) (lines : List LogLine) : List LogLine :=
  lines.filter fun line => line.level.rank ≤ level.rank

end BranchingStory
