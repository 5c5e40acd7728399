import BranchingStory.Console.Render
import BranchingStory.Files.Tree
import BranchingStory.Playback.Engine
import BranchingStory.Text.Blank
import BranchingStory.Word

/-!
# Sessions

A session plays a story on a terminal. It shows what the engine displays, and whenever the engine
waits it asks for a line: an empty line goes on, a number chooses an option, and some words that
start with a colon are for the session itself.

A session goes in turns. A turn ends when a line is due or when the session is over, so that a turn
needs no more input than one line; `continueSession` goes on with a session on a list of lines.
-/

namespace BranchingStory.Console

open Playback

/-- Why a session is given up. -/
inductive SessionError
  /-- The engine fails. -/
  | engine (error : EngineError)
  /-- A line of the input is no text. -/
  | input (error : Files.ReadError)
  /-- The engine neither waits nor has it stopped. -/
  | status (status : Status)

/-- What is told about a session that is given up. -/
def SessionError.report (wording : Wording) : SessionError → Report
  | engine error => error.report wording
  | input error => ⟨"CLI_IO", error.message, none⟩
  | status s =>
    ⟨"CLI_ENGINE_STATE", "Engine is not at a player boundary (status: " ++ s.name ++ ").", none⟩

/-! ## Output -/

/-- The line that tells what can be entered. -/
def helpLine : String :=
  "commands: <enter> advance, <number> choose, :help :restart :quit"

/-- What is written when a line is due. -/
def promptText : String := "> "

/-- A piece of what a session writes. -/
inductive Written
  /-- A line of the story. -/
  | story (line : String)
  /-- What can be entered. -/
  | help
  /-- A line is due. -/
  | prompt
  /-- The story was started again. -/
  | restarted
  /-- The player has quit. -/
  | bye
  /-- There is no option with the number that was entered. -/
  | noOption (index : Nat)
  /-- What was entered is no number. -/
  | enterNumber
  /-- The story has stopped in a node. -/
  | stopped (node : Option String)
deriving Repr, DecidableEq

namespace Written

/-- How a piece is written. -/
def text : Written → String
  | story line => line ++ "\n"
  | help => helpLine ++ "\n"
  | prompt => promptText
  | restarted => "restarted\n"
  | bye => "bye\n"
  | noOption index => "no option " ++ toString index ++ "\n"
  | enterNumber => "enter an option number\n"
  | stopped node => "[story stopped in " ++ node.getD "<none>" ++ "]\n"

/-- The line of the story that a piece is, if it is one. -/
def storyLine? : Written → Option String
  | story line => some line
  | _ => none

end Written

/-- What some pieces are together. -/
def outputText (output : List Written) : String :=
  String.join (output.map Written.text)

/-- The lines of the story in what is written. -/
def storyLines (output : List Written) : List String :=
  output.filterMap Written.storyLine?

/-! ## Players -/

/-- An engine at a terminal. Its commands become lines at once, but these are not written before the
session comes to it. -/
structure Player where
  /-- The engine. -/
  engine : Engine
  /-- The lines that are not written yet. -/
  pending : List String

namespace Player

/-- The player after a call of its engine. -/
def after (p : Player) (outcome : Outcome) : Player where
  engine := outcome.engine
  pending := p.pending ++ commandLines outcome.commands

/-- The player without the lines that were not written yet. -/
def drained (p : Player) : Player :=
  { p with pending := [] }

end Player

/-! ## Turns -/

/-- How a turn ends. -/
inductive TurnEnd
  /-- A line is due. -/
  | prompt (player : Player)
  /-- The session is over. -/
  | finished (player : Player)
  /-- The session is given up. -/
  | failed (error : SessionError)

/-- A turn of a session. -/
structure Turn where
  /-- What is written. -/
  output : List Written
  /-- The log lines. -/
  lines : List LogLine
  /-- How the turn ends. -/
  next : TurnEnd

/-- The text that is written in a turn. -/
def Turn.text (t : Turn) : String :=
  outputText t.output

/-- A turn before which something else was written and logged. -/
def Turn.after (output : List Written) (lines : List LogLine) (t : Turn) : Turn :=
  { t with output := output ++ t.output, lines := lines ++ t.lines }

/-- How a turn ends once all lines are written, as the engine is. -/
def await (p : Player) : Turn :=
  match p.engine.status with
  | .ended => ⟨[], [], .finished p⟩
  | .halted => ⟨[.stopped (p.engine.cursor.map Cursor.node)], [], .finished p⟩
  | .awaitingAdvance => ⟨[.prompt], [], .prompt p⟩
  | .awaitingChoice => ⟨[.prompt], [], .prompt p⟩
  | status => ⟨[], [], .failed (.status status)⟩

/-- The end of a turn: the lines that are pending are written first. -/
def settle (p : Player) : Turn :=
  (await p.drained).after (p.pending.map .story) []

/-- The end of a turn after a call of the engine. What a call that fails has sent is not shown. -/
def proceed (wording : Wording) (p : Player) (outcome : Outcome) : Turn :=
  let told := Event.lines wording outcome.events
  match outcome.result with
  | .ok () => (settle (p.after outcome)).after [] told
  | .error error => ⟨[], told, .failed (.engine error)⟩

/-- The first turn of a session with an engine that has been started. -/
def firstTurn (p : Player) : Turn :=
  (settle p).after [.help] []

/-- The number that a line is, if it fits into 64 bits. -/
def optionNumber? (line : String) : Option Nat :=
  let digits := match line.toList with
    | '+' :: digits => digits
    | digits => digits
  if digits.isEmpty || !digits.all Char.isDigit then none
  else
    let n := digits.foldl (fun n c => 10 * n + (c.toNat - '0'.toNat)) 0
    if n < Word.bound then some n else none

/-- The turn after the player has started the story again. What is pending is thrown away. -/
def restartTurn (wording : Wording) (p : Player) : Turn :=
  let outcome := p.engine.restart
  let told := Event.lines wording outcome.events
  match outcome.result with
  | .ok () =>
    (settle (p.drained.after outcome)).after [.restarted]
      (told ++ [⟨.debug, "restarted from \"" ++ p.engine.story.start ++ "\""⟩])
  | .error error => ⟨[], told, .failed (.engine error)⟩

/-- The code of the error that an option is not there. -/
def noOptionCode : String := "ENGINE_CHOICE_INDEX"

/-- The turn after the player has entered something where a choice is shown. An error with the code
for options that are not there is taken for that, whoever made it. -/
def choiceTurn (wording : Wording) (p : Player) (entry : String) : Turn :=
  match optionNumber? entry with
  | none => (settle p).after [.enterNumber] []
  | some index =>
    let outcome := p.engine.choose index
    match outcome.result with
    | .ok () => proceed wording p outcome
    | .error error =>
      if (error.report wording).code = noOptionCode then
        (settle (p.after outcome)).after [.noOption index] (Event.lines wording outcome.events)
      else proceed wording p outcome

/-- What a player enters. -/
inductive Entry
  /-- The player asks what can be entered. -/
  | help
  /-- The story is to start again. -/
  | restart
  /-- The session is to end. -/
  | quit
  /-- Something else, which is for the engine. -/
  | signal (text : String)

/-- What is entered with a line. White space around it does not count. -/
def Entry.ofLine (line : String) : Entry :=
  match Text.trim (Text.trimLineEnd line) with
  | ":help" => .help
  | ":restart" => .restart
  | ":quit" => .quit
  | text => .signal text

/-- The turn after the player has entered a line. -/
def answer (wording : Wording) (p : Player) (line : String) : Turn :=
  match Entry.ofLine line with
  | .help => (settle p).after [.help] []
  | .restart => restartTurn wording p
  | .quit => ⟨[.bye], [], .finished p⟩
  | .signal text =>
    if p.engine.status = .awaitingChoice then choiceTurn wording p text
    else proceed wording p p.engine.advance

/-- A line of the input, unless it is no text. -/
abbrev InputLine := Except Files.ReadError String

/-- The turn after a line of the input. -/
def respond (wording : Wording) (p : Player) : InputLine → Turn
  | .ok line => answer wording p line
  | .error error => ⟨[], [], .failed (.input error)⟩

/-- A whole session. -/
structure SessionResult where
  /-- What was written. -/
  output : List Written
  /-- The log lines. -/
  lines : List LogLine
  /-- The player at the end, or why the session was given up. -/
  result : Except SessionError Player

/-- The text that was written in a session. -/
def SessionResult.text (r : SessionResult) : String :=
  outputText r.output

/-- How a session stands when the input ends after a turn. -/
def Turn.close (t : Turn) : SessionResult where
  output := t.output
  lines := t.lines
  result := match t.next with
    | .prompt p => .ok p
    | .finished p => .ok p
    | .failed error => .error error

/-- A session before whose rest a turn has been. -/
def SessionResult.after (t : Turn) (r : SessionResult) : SessionResult :=
  { r with output := t.output ++ r.output, lines := t.lines ++ r.lines }

/-- Goes on with a session after a turn. At the end of the input the session is over. -/
def continueSession (wording : Wording) : List InputLine → Turn → SessionResult
  | [], t => t.close
  | line :: rest, t =>
    match t.next with
    | .prompt p => (continueSession wording rest (respond wording p line)).after t
    | _ => t.close

/-! ## Input -/

/-- The pieces of some bytes, each up to and with a line feed. -/
def splitLines : List UInt8 → List (List UInt8)
  | [] => []
  | b :: rest =>
    if b = 10 then [b] :: splitLines rest
    else match splitLines rest with
      | [] => [[b]]
      | line :: lines => (b :: line) :: lines

/-- The lines of an input. -/
def inputLines (bytes : ByteArray) : List InputLine :=
  (splitLines bytes.toList).map fun line => Files.FileTree.decode (ByteArray.mk line.toArray)

end BranchingStory.Console
