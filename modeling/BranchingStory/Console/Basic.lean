import BranchingStory.Console.Arguments
import BranchingStory.Console.Check
import BranchingStory.Console.Session
import BranchingStory.Playback.Opening

/-!
# The program

What the program does with a request: it plays a story or checks story files. Files are given as
what is at the path of the request, and the input as a list of lines, so that all of this is a
function. The language of the scripts in the stories is a parameter of it.
-/

namespace BranchingStory.Console

open Files Playback

/-- What a run of the program leads to. -/
structure Result where
  /-- The exit code. -/
  exit : Nat
  /-- What is written to the standard output. -/
  output : String := ""
  /-- What is written to the standard error. -/
  errors : String := ""
  /-- The log lines. -/
  lines : List LogLine := []

/-- How an error is written. -/
def errorText (r : Report) : String :=
  unlines (["RESULT:ERROR", "ERROR_CODE:" ++ r.code,
      "ERROR_MSG_JSON:" ++ (Json.string r.message).compact] ++
    (r.location.map fun location => "ERROR_LOCATION:" ++ location).toList)

/-- A run that ends with an error. -/
def Result.ofError (r : Report) (output : String) (lines : List LogLine) : Result where
  exit := 1
  output
  errors := errorText r
  lines

/-- The first turn of playing the story at a path, or the error that keeps it from being played. -/
def openPlay (language : Script.Language) (wording : Wording) (path : String)
    (gate : Review.Gate) (found : Except ReadError FileTree) : List LogLine × Except Report Turn :=
  match loadFile language found with
  | .error error => ([], .error (error.report wording path))
  | .ok story =>
    let opening := openStory wording gate Engine.defaultLimit story
    (story.loadedLine :: opening.lines,
      match opening.result with
      | .ok engine => .ok (firstTurn ⟨engine, commandLines opening.commands⟩)
      | .error error => .error (error.report wording))

/-- Plays the story at a path. -/
def play (language : Script.Language) (wording : Wording) (path : String) (gate : Review.Gate)
    (found : Except ReadError FileTree) (input : List InputLine) : Result :=
  match openPlay language wording path gate found with
  | (told, .error report) => .ofError report "" told
  | (told, .ok turn) =>
    let session := continueSession wording input turn
    match session.result with
    | .ok _ => ⟨0, session.text, "", told ++ session.lines⟩
    | .error error => .ofError (error.report wording) session.text (told ++ session.lines)

/-- Checks the story files at a path. -/
def check (language : Script.Language) (wording : Wording) (path : String)
    (denyWarnings json : Bool) (found : Except ReadError FileTree) : Result :=
  match storyFiles path found with
  | .error error => .ofError error.report "" []
  | .ok files =>
    let reports := files.map fun file => checkFile language wording file.1 file.2
    let output :=
      if json then (Json.array (reports.map StoryReport.toJson)).pretty ++ "\n"
      else unlines (renderReports reports)
    let lines := files.flatMap fun file => checkLines language file.2
    ⟨exitCode denyWarnings reports, output, "", lines⟩

/-- Does what a request asks for. -/
def perform (language : Script.Language) (wording : Wording) (request : Request)
    (found : Except ReadError FileTree) (input : List InputLine) : Result :=
  match request with
  | .play story gate => play language wording story gate found input
  | .check path denyWarnings json => check language wording path denyWarnings json found

/-- How the program is used. -/
def usage : String :=
  unlines ["Play and check branching visual-novel stories", "",
    "play --story <path> [--gate off|errors|warnings] [--verbose]",
    "check --path <path> [--deny-warnings] [--json] [--verbose]"]

/-- What arguments that are no request lead to. -/
def Refusal.result : Refusal → Result
  | .help => ⟨0, usage, "", []⟩
  | .invalid => ⟨2, "", usage, []⟩

/-- Runs the program in a directory. -/
def run (language : Script.Language) (wording : Wording) (arguments : List String)
    (directory : FileTree) (input : List InputLine) : Result :=
  match readArguments arguments with
  | .error refusal => refusal.result
  | .ok understood =>
    perform language wording understood.request (directory.find understood.request.path) input

end BranchingStory.Console
