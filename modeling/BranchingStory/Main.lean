import BranchingStory.Console.Basic

/-!
# The command line

The outer layer of the program: it reads arguments, files and lines, hands them to the functions of
`BranchingStory.Console`, and writes what these give back. Nothing is decided here, but that the
language of the scripts and the words for problems are those of this library.
-/

namespace BranchingStory.Console

open Files

/-! ## Reading -/

/-- What keeps a path from being followed, as far as trees of files know it. -/
def ReadError.ofSystem? : IO.Error → Option ReadError
  | .noFileOrDirectory .. => some .notFound
  | .inappropriateType .. => some .notDirectory
  | _ => none

/-- The content of a file, if the file is needed. -/
def fetchFile (path : String) (needed : Bool) : IO FileTree := do
  if needed then return .file (← IO.FS.readBinFile path)
  return .file ByteArray.empty

/-- The files at and below a path. Links are not followed, and files that hold no stories are left
empty, except for one that the path leads to itself. -/
partial def fetchTree (path : String) : IO FileTree := do
  let place ← IO.FS.realPath path
  match (← place.metadata).type with
  | .dir =>
    let mut tree := FileTree.directory []
    for entry in ← place.readDir do
      let below := Path.join place.toString entry.fileName
      match (← entry.path.symlinkMetadata).type with
      | .dir => tree := .put (← fetchTree below) [entry.fileName] tree
      | .file =>
        tree := .put (← fetchFile below (Path.isStoryFile entry.fileName)) [entry.fileName] tree
      | _ => continue
    return tree
  | _ => fetchFile path true

/-- What is at a path. -/
def fetch (path : String) : IO (Except ReadError FileTree) := do
  match ← (fetchTree path).toBaseIO with
  | .ok tree => return .ok tree
  | .error error =>
    match ReadError.ofSystem? error with
    | some error => return .error error
    | none => throw error

/-- The bytes of the next line, with its line feed. -/
partial def readBytes (input : IO.FS.Stream) (line : ByteArray) : IO ByteArray := do
  let next ← input.read 1
  if next.isEmpty || next == ⟨#[10]⟩ then return line ++ next
  readBytes input (line ++ next)

/-! ## Writing -/

/-- Writes the log lines that are wanted. -/
def writeLines (level : Level) (lines : List LogLine) : IO Unit := do
  let error ← IO.getStderr
  (LogLine.upTo level lines).forM fun line => error.putStrLn line.text

/-- Writes an error; its exit code. -/
def writeError (report : Report) : IO UInt32 := do
  IO.eprint (errorText report)
  return 1

/-! ## Requests -/

/-- Plays turn after turn. -/
partial def playTurns (level : Level) (input : IO.FS.Stream) (turn : Turn) : IO UInt32 := do
  writeLines level turn.lines
  IO.print turn.text
  (← IO.getStdout).flush
  match turn.next with
  | .finished _ => return 0
  | .failed error => writeError (error.report .own)
  | .prompt player =>
    match inputLines (← readBytes input ByteArray.empty) with
    | [] => return 0
    | line :: _ => playTurns level input (respond .own player line)

/-- Does what a request asks for. -/
def serve (understood : Understood) : IO UInt32 := do
  let level := if understood.verbose then Level.debug else .warn
  let found ← fetch understood.request.path
  match understood.request with
  | .play path gate =>
    let (told, opened) := openPlay .own .own path gate found
    writeLines level told
    match opened with
    | .ok turn => playTurns level (← IO.getStdin) turn
    | .error report => writeError report
  | request =>
    let result := perform .own .own request found []
    writeLines level result.lines
    IO.print result.output
    IO.eprint result.errors
    return result.exit.toUInt32

/-- Runs the program. -/
def runProgram (arguments : List String) : IO UInt32 := do
  match readArguments arguments with
  | .ok understood => serve understood
  | .error refusal =>
    IO.print refusal.result.output
    IO.eprint refusal.result.errors
    return refusal.result.exit.toUInt32

end BranchingStory.Console

/-- The program. -/
def main (arguments : List String) : IO UInt32 :=
  BranchingStory.Console.runProgram arguments
