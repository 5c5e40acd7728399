import BranchingStory.Case.Run
import BranchingStory.Files.Tree

/-!
# Test cases in directories

A story lies in a file of a directory, and the test cases for it in other files. The functions here
find and read these files and run the test cases.
-/

namespace BranchingStory.Case

open Files

/-- Why a test case cannot be run, or does not pass. -/
inductive CaseError
  /-- A file cannot be read. -/
  | read (path : String) (error : ReadError)
  /-- A file holds no test case. -/
  | parse (path : String) (problem : Json.Problem)
  /-- A test case is of another version of the format. -/
  | version (found : String)
  /-- A directory holds no story. -/
  | noStory (directory : String)
  /-- A directory cannot be searched. -/
  | scan (path : String) (error : ReadError)
  /-- The run fails. -/
  | run (error : RunError)
  /-- The run differs from what is expected. -/
  | mismatch (mismatch : Mismatch)

/-- The wording of an error of a run. -/
def RunError.message (wording : Wording) : RunError → String
  | .story failure => "Engine error: " ++ (failure.report wording).text
  | .missingAction commandIndex =>
    "Action missing at command index " ++ toString commandIndex ++
      ": the story is awaiting a choice."
  | .unusedActions used total =>
    "Unused actions: used " ++ toString used ++ " of " ++ toString total ++ "."
  | .tooManySignals => "Guard exceeded: max_signals=" ++ toString maxSignals ++ "."
  | .unexpectedStatus status => "Engine stopped in unexpected status " ++ status.name ++ "."

/-- The wording of a difference. -/
def Mismatch.message : Mismatch → String
  | .ending expected actual =>
    "Expected the story to finish " ++ expected.name ++ ", it finished " ++ actual.name ++ "."
  | .count expected observed =>
    "Expected command count " ++ toString expected ++ ", actual " ++ toString observed.length ++
      ". observed=" ++ (Json.array (observed.map Playback.Command.toJson)).pretty
  | .command index expected actual =>
    "Command mismatch at index " ++ toString index ++ ". expected=" ++ expected.toJson.compact ++
      " actual=" ++ actual.toJson.compact

/-- The wording of an error. -/
def CaseError.message (wording : Wording) : CaseError → String
  | .read path error => "Failed to read file " ++ path ++ ": " ++ error.message
  | .parse path problem => "Failed to parse testcase " ++ path ++ ": " ++ wording.json problem
  | .version found =>
    "Invalid testcase schema version \"" ++ found ++ "\", expected \"" ++
      TestCase.currentVersion ++ "\"."
  | .noStory directory => "No story.json in " ++ directory ++ "."
  | .scan path error =>
    "Failed to scan " ++ path ++ ": IO error for operation on " ++ path ++ ": " ++ error.message
  | .run error => error.message wording
  | .mismatch m => m.message

/-- The path of the story in a directory. -/
def storyPath (files : FileTree) (directory : String) : Except CaseError String :=
  let path := Path.join directory Path.storyFileName
  match files.find path with
  | .ok (.file _) => .ok path
  | _ => .error (.noStory directory)

/-- The text of the story in a directory. -/
def storyText (files : FileTree) (directory : String) : Except CaseError String := do
  let path ← storyPath files directory
  (files.read path).mapError (.read path)

/-- The test case in a file. -/
def readCase (files : FileTree) (path : String) : Except CaseError TestCase := do
  let text ← (files.read path).mapError (.read path)
  let testCase ← (TestCase.parse text).mapError (.parse path)
  if testCase.schemaVersion ≠ TestCase.currentVersion then throw (.version testCase.schemaVersion)
  return testCase

/-- The paths of the directories below a path that hold a test case. -/
def caseDirectories (files : FileTree) (path : String) : Except CaseError (List String) := do
  let tree ← (files.find path).mapError (.scan path)
  return ((tree.filePaths path).filter fun file => Path.name? file = some TestCase.fileName).map
    Path.parent

/-- Plays the story in a directory, whose scripts are in a language, by the actions of a test case.
-/
def runCase (language : Script.Language) (wording : Wording) (files : FileTree)
    (directory : String) (testCase : TestCase) : Except CaseError RunReport := do
  let text ← storyText files directory
  (playText language wording testCase.actions text).mapError .run

/-- Checks that the story in a directory, whose scripts are in a language, passes the test case in a
file. -/
def assertCase (language : Script.Language) (wording : Wording) (files : FileTree)
    (directory path : String) : Except CaseError Unit := do
  let testCase ← readCase files path
  let report ← runCase language wording files directory testCase
  (judge testCase report).mapError .mismatch

end BranchingStory.Case
