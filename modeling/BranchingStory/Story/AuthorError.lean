import BranchingStory.Story.Location
import BranchingStory.Wording

/-!
# Errors of author functions

The functions that an author gives to a story can fail: a script in one of the ways below, any other
function with an error of the author's choice.
-/

namespace BranchingStory

/-- Why a function of the author failed. -/
inductive AuthorError
  /-- The author's own error. -/
  | given (code message : String) (location : Option String)
  /-- The run of a script failed. -/
  | runtime (problem : Script.Problem) (location : Location)
  /-- The test of a branch came out with something else than a truth value. -/
  | booleanExpected (source kind : String) (location : Location)
  /-- A script came out with something that no variable can hold. -/
  | valueUnsupported (kind : String)
  /-- An effect left something else than the variables behind. -/
  | variablesReplaced (location : Location)
deriving Repr, DecidableEq

/-- What is told about the failure of an author function. -/
def AuthorError.report (wording : Wording) : AuthorError → Report
  | .given code message location => ⟨code, message, location⟩
  | .runtime problem location => ⟨"SCRIPT_RUNTIME", wording.script problem, some location.text⟩
  | .booleanExpected source kind location =>
    ⟨"SCRIPT_BOOLEAN_EXPECTED",
      "Test \"" ++ source ++ "\" must evaluate to boolean, got " ++ kind ++ ".",
      some location.text⟩
  | .valueUnsupported kind =>
    ⟨"SCRIPT_VALUE_UNSUPPORTED", "Script produced unsupported value of type " ++ kind ++ ".", none⟩
  | .variablesReplaced location =>
    ⟨"SCRIPT_VARS_REPLACED", "Effect replaced \x60vars\x60 with a non-map value.",
      some location.text⟩

end BranchingStory
