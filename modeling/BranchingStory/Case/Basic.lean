import BranchingStory.Json.Draft
import BranchingStory.Playback.Command

/-!
# Test cases

A test case says how a story is to be played, by the options that are chosen, and what is to be seen
then: the commands that are sent and whether the story comes to an end. It is written as a JSON
record.
-/

namespace BranchingStory.Case

open Playback

/-- How a story stops. -/
inductive Ending
  /-- At its end. -/
  | ended
  /-- At a place where it does not go on. -/
  | halted
deriving Repr, DecidableEq, Inhabited

namespace Ending

/-- The name of an ending. -/
def name : Ending → String
  | ended => "Ended"
  | halted => "Halted"

/-- The name of an ending in JSON texts. -/
def tag : Ending → String
  | ended => "ended"
  | halted => "halted"

/-- The ending that a tag names. -/
def ofTag? : String → Option Ending
  | "ended" => some ended
  | "halted" => some halted
  | _ => none

/-- The ending that a JSON value is. -/
def ofJson? : Json → Option Ending
  | .string tag => ofTag? tag
  | .object [(tag, .null)] => ofTag? tag
  | _ => none

end Ending

/-- A test case. -/
structure TestCase where
  /-- The version of the format. -/
  schemaVersion : String
  /-- The numbers of the options to be chosen, one after the other. -/
  actions : List Nat
  /-- The commands to be sent. -/
  expectedCommands : List Command
  /-- How the story is to stop. -/
  expectedEnd : Ending
deriving Repr, DecidableEq

namespace TestCase

/-- The version of the format of test cases. -/
def currentVersion : String := "sp-tool-case.v1"

/-- The name of files that hold test cases. -/
def fileName : String := "testcase.json"

/-- A test case as a JSON object. -/
def toJson (c : TestCase) : Json :=
  .object [("schemaVersion", .string c.schemaVersion),
    ("actions", .array (c.actions.map fun n => .number (.int (Int.ofNat n)))),
    ("expectedCommands", .array (c.expectedCommands.map Command.toJson)),
    ("expectedEnd", .string c.expectedEnd.tag)]

/-! ## Reading -/

/-- The number of an option. -/
def action? : Json → Option Nat
  | .number (.int i) => if 0 ≤ i then some i.toNat else none
  | _ => none

/-- The elements of a JSON array, read by `read?`. -/
def listOf? {α : Type} (read? : Json → Option α) : Json → Option (List α)
  | .array items => items.mapM read?
  | _ => none

/-- What a draft is, read by `read?`. -/
def valueOf {α : Type} (expected : String) (read? : Json → Option α) (draft : Json.Draft) :
    Except Json.Problem α := do
  match read? (← draft.toJson (Json.maxDepth - 1)) with
  | some a => return a
  | none => throw (.unexpectedShape expected)

/-- A field of a record, read by `read?`, or what stands for a field that is not there. -/
def fieldOf {α : Type} (fields : List (String × Json.Draft)) (name expected : String)
    (read? : Json → Option α) (missing : Except Json.Problem α) : Except Json.Problem α :=
  match fields.lookup name with
  | some draft => valueOf expected read? draft
  | none => missing

/-- The test case in a draft. -/
def ofDraft (draft : Json.Draft) : Except Json.Problem TestCase := do
  let fields ← draft.record ["schemaVersion", "actions", "expectedCommands", "expectedEnd"]
  let schemaVersion ← fieldOf fields "schemaVersion" "a string" Command.text?
    (.error (.missingField "schemaVersion"))
  let actions ← fieldOf fields "actions" "numbers of options" (listOf? action?) (.ok [])
  let expectedCommands ←
    fieldOf fields "expectedCommands" "commands" (listOf? Command.ofJson?) (.ok [])
  let expectedEnd ← fieldOf fields "expectedEnd" "an ending" Ending.ofJson? (.ok .ended)
  return ⟨schemaVersion, actions, expectedCommands, expectedEnd⟩

/-- The test case that a text consists of. -/
def parse (text : String) : Except Json.Problem TestCase := do
  ofDraft (← Json.Draft.parse text)

end TestCase

end BranchingStory.Case
