import BranchingStory.Script.Grammar
import BranchingStory.Script.Run
import BranchingStory.Script.Simplify
import BranchingStory.Story.Step

/-!
# Author functions from scripts

A script sees the variables of a story as one variable, `vars`, which holds a map. A formula
computes a value or decides a branch; a program changes the map, and what the map is at its end are
the new variables. If a program fails, the variables stay as they are.

How scripts are read and run is up to a `Language`. What the other modules of this folder make up is
one, `Language.own`; what a story makes of its scripts depends on no particular one. So whatever
reads a story is told the language of its scripts.
-/

namespace BranchingStory.Script

/-- The name under which a script sees the variables of a story. -/
def variablesName : String := "vars"

/-- What is in scope when a script starts. -/
def openingScope (vars : Variables) : Scope :=
  [⟨variablesName, false, .map (Datum.ofEntries vars)⟩]

/-- The formula that a text is. -/
def formula? (source : String) : Except Problem Expr :=
  (Grammar.formula variablesName source).map simplify

/-- The program that a text is. -/
def program? (source : String) : Except Problem (List Stmt) :=
  (Grammar.program variablesName source).map simplifyBody

/-- A language for scripts. -/
structure Language where
  /-- What computes a value or decides a branch. -/
  Formula : Type
  /-- What changes variables. -/
  Program : Type
  /-- The formula that a text is. -/
  formula? : String → Except Problem Formula
  /-- The program that a text is. -/
  program? : String → Except Problem Program
  /-- The result of a formula for the variables in scope. -/
  result : Formula → Scope → Except Problem Datum
  /-- The variables in scope after a program. -/
  scopeAfter : Program → Scope → Except Problem Scope

namespace Language

/-- The language of this library. -/
def own : Language where
  Formula := Expr
  Program := List Stmt
  formula? := Script.formula?
  program? := Script.program?
  result := Script.result
  scopeAfter := Script.scopeAfter

variable (language : Language)

/-- The result of a formula for variables. -/
def evaluate (formula : language.Formula) (location : Location) (vars : Variables) :
    Except AuthorError Datum :=
  (language.result formula (openingScope vars)).mapError fun problem => .runtime problem location

/-- The function that computes a value by a formula. -/
def compute (formula : language.Formula) (location : Location) : Compute := fun vars => do
  (← language.evaluate formula location vars).toValue.mapError .valueUnsupported

/-- The function that decides a branch by a formula, which stands in the text `source`. -/
def test (source : String) (formula : language.Formula) (location : Location) : Test :=
  fun vars => do
    match ← language.evaluate formula location vars with
    | .bool b => return b
    | other => throw (.booleanExpected source other.kind location)

/-- The variables that a program leaves behind. -/
def variablesAfter (program : language.Program) (location : Location) (vars : Variables) :
    Except AuthorError Variables := do
  let scope ← (language.scopeAfter program (openingScope vars)).mapError fun problem =>
    .runtime problem location
  match (scope.find? variablesName).map Binding.content with
  | some (.map entries) => (Datum.toEntries entries).mapError .valueUnsupported
  | _ => throw (.variablesReplaced location)

/-- The function that changes variables by a program. -/
def effect (program : language.Program) (location : Location) : Effect := fun vars =>
  match language.variablesAfter program location vars with
  | .ok after => (after, .ok ())
  | .error error => (vars, .error error)

end Language

end BranchingStory.Script
