import BranchingStory.Console.Render
import BranchingStory.Document.Basic
import BranchingStory.Files.Tree
import BranchingStory.Json.Printer
import BranchingStory.Review.Basic

/-!
# Checking story files

`check` reads all story files that a path leads to and reviews the stories in them. A report says
for every file why it holds no story, or what there is to say about the story.
-/

namespace BranchingStory.Console

open Files Review

/-- Why there is nothing to check. -/
inductive CheckError
  /-- There is nothing at the path. -/
  | notFound (path : String)
  /-- There are no story files below the path. -/
  | noStories (path : String)
deriving Repr, DecidableEq

/-- What is told about a path where there is nothing to check. -/
def CheckError.report : CheckError → Report
  | notFound path => ⟨"CLI_SOURCE_NOT_FOUND", "path does not exist: " ++ path, none⟩
  | noStories path =>
    ⟨"CLI_SOURCE_EMPTY", "No story.json or *.story.json files under " ++ path, none⟩

/-- Why the story in a file cannot be loaded. -/
inductive FileError
  /-- The file cannot be read. -/
  | read (error : ReadError)
  /-- The file holds no story. -/
  | load (error : Document.LoadError)

/-- What is told about a file at a path that holds no story. -/
def FileError.report (wording : Wording) (path : String) : FileError → Report
  | read error => ⟨"LOADER_READ", error.message, some path⟩
  | load error =>
    let r := error.report wording
    { r with location := some (match r.location with
      | some location => path ++ ": " ++ location
      | none => path) }

/-- The story in a file, with scripts in a language. -/
def loadFile (language : Script.Language) (file : Except ReadError FileTree) :
    Except FileError Story := do
  let text ← (file.bind FileTree.text).mapError .read
  (Story.load text language).mapError .load

/-- The story in some bytes, with scripts in a language. -/
def loadBytes (language : Script.Language) (bytes : ByteArray) : Except FileError Story :=
  loadFile language (.ok (.file bytes))

/-- What there is to say about a file. -/
structure StoryReport where
  /-- The path. -/
  path : String
  /-- The findings about the story, or why there is none. -/
  outcome : Except Report (List Finding)

namespace StoryReport

/-- The findings about the story. -/
def findings (r : StoryReport) : List Finding :=
  match r.outcome with
  | .ok findings => findings
  | .error _ => []

/-- How many errors there are. -/
def errorCount (r : StoryReport) : Nat :=
  match r.outcome with
  | .ok findings => findings.countP Finding.isError
  | .error _ => 1

/-- How many warnings there are. -/
def warningCount (r : StoryReport) : Nat :=
  r.findings.countP Finding.isWarning

/-- Whether a file does not pass: because of an error, or of a warning if these are denied. -/
def fails (denyWarnings : Bool) (r : StoryReport) : Bool :=
  match r.outcome with
  | .ok findings => hasErrors findings || denyWarnings && hasWarnings findings
  | .error _ => true

end StoryReport

/-- How the error of a file is written. -/
def loadErrorText (r : Report) : String :=
  match r.location with
  | some location => r.text ++ " (at " ++ location ++ ")"
  | none => r.text

/-- The report about a file at a path. -/
def checkFile (language : Script.Language) (wording : Wording) (path : String)
    (bytes : ByteArray) : StoryReport :=
  match loadBytes language bytes with
  | .ok story => ⟨path, .ok (review story)⟩
  | .error error => ⟨path, .error (error.report wording path)⟩

/-- The log lines about a file. -/
def checkLines (language : Script.Language) (bytes : ByteArray) : List LogLine :=
  match loadBytes language bytes with
  | .ok story => story.loadedLine :: (review story).map Finding.line
  | .error _ => []

/-- The files to be checked: the one at a path, or all story files below it. -/
def storyFiles (path : String) (found : Except ReadError FileTree) :
    Except CheckError (List (String × ByteArray)) :=
  match found with
  | .error _ => .error (.notFound path)
  | .ok (.file bytes) => .ok [(path, bytes)]
  | .ok tree =>
    match (tree.filesBelow path).filter fun file => Path.isStoryFile file.1 with
    | [] => .error (.noStories path)
    | files => .ok files

/-- The exit code for some reports. -/
def exitCode (denyWarnings : Bool) (reports : List StoryReport) : Nat :=
  if reports.any (StoryReport.fails denyWarnings) then 1 else 0

/-! ## Writing reports -/

/-- The lines about a file. -/
def reportLines (r : StoryReport) : List String :=
  r.path :: match r.outcome with
    | .error report => ["  error: " ++ loadErrorText report]
    | .ok [] => ["  ok"]
    | .ok findings => findings.map fun f => "  " ++ f.text

/-- How many things of a kind there are in some reports. -/
def total (count : StoryReport → Nat) (reports : List StoryReport) : Nat :=
  reports.foldl (fun n r => n + count r) 0

/-- The line that sums reports up. -/
def summaryLine (reports : List StoryReport) : String :=
  "checked " ++ toString reports.length ++ " file(s): " ++
    toString (total StoryReport.errorCount reports) ++ " error(s), " ++
    toString (total StoryReport.warningCount reports) ++ " warning(s)"

/-- The lines about some files. -/
def renderReports (reports : List StoryReport) : List String :=
  reports.flatMap reportLines ++ [summaryLine reports]

/-- A finding as a JSON object. -/
def findingToJson (f : Finding) : Json :=
  .object [("severity", .string f.severity.name), ("message", .string f.issue.message),
    ("location", .string f.location.text)]

/-- A report as a JSON object. -/
def StoryReport.toJson (r : StoryReport) : Json :=
  .object (("path", .string r.path) ::
    (match r.outcome with
      | .error report => [("loadError", Json.string (loadErrorText report))]
      | .ok _ => []) ++
    [("diagnostics", .array (r.findings.map findingToJson))])

end BranchingStory.Console
