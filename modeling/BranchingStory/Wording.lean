import BranchingStory.Json.Basic
import BranchingStory.Script.Problem

/-!
# Wordings and reports

Messages quote what the JSON reader and the script language found wrong. How these two say it is not
part of a message: it is a parameter of everything that writes one.
-/

namespace BranchingStory

/-- How problems of the two readers are worded inside messages. -/
structure Wording where
  /-- The wording of what is wrong with a JSON text. -/
  json : Json.Problem → String
  /-- The wording of what is wrong with a script. -/
  script : Script.Problem → String

/-- The readers' own words. -/
def Wording.own : Wording where
  json := Json.Problem.message
  script := Script.Problem.message

/-- What is told about an error: a code for programs, a message for people and, where there is one,
the place that it is about. -/
structure Report where
  /-- The code. -/
  code : String
  /-- The message. -/
  message : String
  /-- The place. -/
  location : Option String := none
deriving Repr, DecidableEq

/-- The code and the message on one line. -/
def Report.text (r : Report) : String :=
  r.code ++ ": " ++ r.message

end BranchingStory
