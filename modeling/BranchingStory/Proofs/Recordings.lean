import BranchingStory.Proofs.CaseRuns
import BranchingStory.Proofs.JsonTexts
import Mathlib

/-!
# Recordings

What was seen in a run can be written down as a test case: the same actions, and as expectations the
commands that were sent and the way the story stopped. Such a recording is read back from its file
as it was written, and the story passes it, today and as long as its text stays the same. With other
expectations it does not pass (`recording_replays`).

Commands and test cases are read back because their records are (`ofJson?_toJson`,
`ofDraft_toJson`); that the texts are read back as records is shown with the texts.
-/

namespace BranchingStory

open Playback Json

/-! ## Commands -/

namespace Playback.Command

theorem optionalText?_optionToJson (text : Option String) :
    optionalText? (optionToJson text) = some text := by
  cases text <;> rfl

theorem texts?_map (labels : List String) : texts? (.array (labels.map .string)) = some labels :=
  mapM_map_eq_pure fun _ _ => rfl

theorem position_ofJson?_name (position : Position) :
    Position.ofJson? (.string position.name) = some position :=
  Position.ofName?_name position

/-- The names of the fields that are written for a command are those that are read. -/
theorem fieldNames?_kind (c : Command) : fieldNames? c.kind = some (c.fields.map Prod.fst) := by
  cases c <;> rfl

/-- A command is made of its name and its fields. -/
theorem ofFields?_fields (c : Command) :
    ofFields? c.kind (("kind", .string c.kind) :: c.fields) = some c := by
  cases c with
  | setBackground place image => rfl
  | setSprite position character image =>
    show (Position.ofJson? (.string position.name)).bind _ = _
    rw [position_ofJson?_name]
    rfl
  | clearSprite position =>
    show (Position.ofJson? (.string position.name)).bind _ = _
    rw [position_ofJson?_name]
    rfl
  | setDialogue speaker text =>
    show (optionalText? (optionToJson speaker)).bind _ = _
    rw [optionalText?_optionToJson]
    rfl
  | showChoices prompt labels =>
    show (optionalText? (optionToJson prompt)).bind
      (fun prompt => (texts? (.array (labels.map .string))).bind _) = _
    rw [optionalText?_optionToJson, texts?_map]
    rfl
  | showEnded => rfl

theorem atMostOnce_fields (c : Command) :
    ("kind" :: c.fields.map Prod.fst).all (atMostOnce (("kind", .string c.kind) :: c.fields)) =
      true := by
  cases c <;> rfl

/-- A command that is written is read back. -/
theorem ofJson?_toJson (c : Command) : ofJson? c.toJson = some c := by
  have hkind : text? (((("kind", Json.string c.kind) :: c.fields).lookup "kind").getD .null) =
      some c.kind := rfl
  rw [toJson, ofJson?, hkind]
  show (fieldNames? c.kind).bind _ = _
  rw [fieldNames?_kind]
  show (if ("kind" :: c.fields.map Prod.fst).all _ = true then _ else _) = _
  rw [if_pos c.atMostOnce_fields]
  exact c.ofFields?_fields

theorem plain_optionToJson (levels : Nat) (text : Option String) :
    Plain levels (optionToJson text) := by
  cases text with
  | none => exact .null levels
  | some text => exact .string levels text

theorem plain_toJson (levels : Nat) (c : Command) : Plain (levels + 2) c.toJson := by
  refine .object (List.forall_mem_cons.2 ⟨.string _ _, ?_⟩)
  cases c with
  | setBackground place image =>
    exact List.forall_mem_cons.2 ⟨.string _ _, List.forall_mem_singleton.2 (.string _ _)⟩
  | setSprite position character image =>
    exact List.forall_mem_cons.2 ⟨.string _ _,
      List.forall_mem_cons.2 ⟨.string _ _, List.forall_mem_singleton.2 (.string _ _)⟩⟩
  | clearSprite position => exact List.forall_mem_singleton.2 (.string _ _)
  | setDialogue speaker text =>
    exact List.forall_mem_cons.2
      ⟨plain_optionToJson _ speaker, List.forall_mem_singleton.2 (.string _ _)⟩
  | showChoices prompt labels =>
    refine List.forall_mem_cons.2 ⟨plain_optionToJson _ prompt, List.forall_mem_singleton.2 ?_⟩
    exact .array (List.forall_mem_map.2 fun _ _ => .string _ _)
  | showEnded => exact List.forall_mem_nil _

end Playback.Command

/-! ## Test cases -/

namespace Case

theorem Ending.ofTag?_tag (ending : Ending) : ofTag? ending.tag = some ending := by
  cases ending <;> rfl

namespace TestCase

variable {c : TestCase}

theorem plain_toJson (h : ∀ index ∈ c.actions, index < Word.bound) (levels : Nat) :
    Plain (levels + 4) c.toJson := by
  refine .object (List.forall_mem_cons.2 ⟨.string _ _, List.forall_mem_cons.2 ⟨?_,
    List.forall_mem_cons.2 ⟨?_, List.forall_mem_singleton.2 (.string _ _)⟩⟩⟩)
  · exact .array (List.forall_mem_map.2 fun index hindex => .number _ (h index hindex))
  · exact .array (List.forall_mem_map.2 fun command _ => command.plain_toJson levels)

theorem valueOf_ofJson {α : Type} {expected : String} {read? : Json → Option α} {v : Json} {a : α}
    (hv : Plain (maxDepth - 1) v) (h : read? v = some a) :
    valueOf expected read? (Draft.ofJson v) = .ok a := by
  rw [valueOf, bind_eq_ok]
  refine ⟨v, toJson_ofJson hv, ?_⟩
  rw [h]
  rfl

theorem action?_ofNat (index : Nat) : action? (.number (.int (Int.ofNat index))) = some index := by
  have hle : 0 ≤ Int.ofNat index := Int.natCast_nonneg index
  rw [action?, if_pos hle]
  rfl

/-- A test case that is written is read back. -/
theorem ofDraft_toJson (h : ∀ index ∈ c.actions, index < Word.bound) :
    ofDraft (Draft.ofJson c.toJson) = .ok c := by
  -- Every field is read as a value of its own, which lies one level deeper than the record.
  have hfields := (plain_toJson h (maxDepth - 4)).of_mem
  simp only [List.forall_mem_cons] at hfields
  obtain ⟨hversion, hactions, hcommands, hending, -⟩ := hfields
  rw [ofDraft, bind_eq_ok]
  refine ⟨[("schemaVersion", _), ("actions", _), ("expectedCommands", _), ("expectedEnd", _)],
    rfl, bind_eq_ok.2 ⟨c.schemaVersion, ?_, bind_eq_ok.2 ⟨c.actions, ?_,
      bind_eq_ok.2 ⟨c.expectedCommands, ?_, bind_eq_ok.2 ⟨c.expectedEnd, ?_, rfl⟩⟩⟩⟩⟩
  · exact valueOf_ofJson hversion rfl
  · exact valueOf_ofJson hactions (mapM_map_eq_pure fun index _ => action?_ofNat index)
  · exact valueOf_ofJson hcommands (mapM_map_eq_pure fun command _ => command.ofJson?_toJson)
  · exact valueOf_ofJson hending c.expectedEnd.ofTag?_tag

/-- The two ways to write a test case. -/
inductive Writes (c : TestCase) : String → Prop
  | compact : Writes c c.toJson.compact
  | pretty : Writes c c.toJson.pretty

theorem parse_of_writes {text : String} (h : ∀ index ∈ c.actions, index < Word.bound)
    (hw : c.Writes text) : parse text = .ok c := by
  have hplain := plain_toJson h 0
  rw [parse, bind_eq_ok]
  refine ⟨Draft.ofJson c.toJson, ?_, ofDraft_toJson h⟩
  cases hw with
  | compact => exact parse_compact hplain
  | pretty => exact parse_pretty hplain

end TestCase

/-! ## Judging -/

theorem firstDifference_eq_none_iff {expected actual : List Command} (index : Nat)
    (h : expected.length = actual.length) :
    firstDifference index expected actual = none ↔ expected = actual := by
  induction expected generalizing index actual with
  | nil =>
    obtain rfl := List.length_eq_zero_iff.1 h.symm
    exact ⟨fun _ => rfl, fun _ => rfl⟩
  | cons command rest ih =>
    cases actual with
    | nil => exact absurd h (by simp)
    | cons command' rest' =>
      rw [firstDifference]
      by_cases hc : command = command'
      · rw [if_pos hc, ih (index + 1) (Nat.succ.inj h), hc]
        simp
      · rw [if_neg hc]
        simp [hc]

/-- A run passes if the story stops as expected after the commands that are expected. -/
theorem judge_eq_ok_iff {expected : TestCase} {actual : RunReport} :
    judge expected actual = .ok () ↔ expected.expectedCommands = actual.observedCommands ∧
      expected.expectedEnd = actual.ending := by
  rw [judge]
  by_cases hend : actual.ending = expected.expectedEnd
  · rw [if_neg (not_not.2 hend)]
    by_cases hlen : actual.observedCommands.length = expected.expectedCommands.length
    · rw [if_neg (not_not.2 hlen), ← firstDifference_eq_none_iff 0 hlen.symm]
      cases firstDifference 0 expected.expectedCommands actual.observedCommands <;>
        simp [hend]
    · rw [if_pos hlen]
      exact ⟨fun h => (nomatch h), fun h => absurd (congrArg List.length h.1.symm) hlen⟩
  · rw [if_pos hend]
    exact ⟨fun h => (nomatch h), fun h => absurd h.2.symm hend⟩

/-! ## Files -/

/-- In a later state of some files the story in a directory is the same, and there is a test case in
the file at a path. -/
structure Keeps (files : Files.FileTree) (directory : String) (c : TestCase)
    (later : Files.FileTree) (path : String) : Prop where
  story : storyText later directory = storyText files directory
  file : ∃ text, c.Writes text ∧ later.find path = .ok (.file text.toUTF8)

variable {language : Script.Language} {wording : Wording} {files later : Files.FileTree}
  {directory path : String}
  {testCase c : TestCase} {report : RunReport}

theorem readCase_of_keeps (h : Keeps files directory c later path)
    (hversion : c.schemaVersion = TestCase.currentVersion)
    (hactions : ∀ index ∈ c.actions, index < Word.bound) : readCase later path = .ok c := by
  obtain ⟨text, hwrites, hfind⟩ := h.file
  have hread : later.read path = .ok text := by
    rw [Files.FileTree.read, bind_eq_ok]
    exact ⟨_, hfind, Files.FileTree.decode_toUTF8 text⟩
  have hparse := TestCase.parse_of_writes hactions hwrites
  rw [readCase, bind_eq_ok]
  refine ⟨text, mapError_eq_ok.2 hread, bind_eq_ok.2 ⟨c, mapError_eq_ok.2 hparse, ?_⟩⟩
  rw [if_neg (not_not.2 hversion)]
  rfl

/-- A run needs the actions of its test case and the text of its story, and nothing else. -/
theorem runCase_eq (hstory : storyText later directory = storyText files directory)
    (hactions : c.actions = testCase.actions) :
    runCase language wording later directory c =
      runCase language wording files directory testCase := by
  rw [runCase, runCase, hstory, hactions]

/-- A case that can be read and run is judged by what is seen in its run. -/
theorem assertCase_of_ok (hcase : readCase files path = .ok c)
    (hrun : runCase language wording files directory c = .ok report) :
    assertCase language wording files directory path = (judge c report).mapError .mismatch := by
  rw [assertCase, hcase]
  show (runCase language wording files directory c >>=
    fun report => (judge c report).mapError .mismatch) = _
  rw [hrun]
  rfl

/-- A test case with the actions of a run is judged by what was seen in the run. -/
theorem assertCase_of_keeps (h : Keeps files directory c later path)
    (hrun : runCase language wording files directory testCase = .ok report)
    (hversion : c.schemaVersion = TestCase.currentVersion)
    (hactions : c.actions = testCase.actions)
    (hbound : ∀ index ∈ testCase.actions, index < Word.bound) :
    assertCase language wording later directory path = (judge c report).mapError .mismatch := by
  have hcase : readCase later path = .ok c := readCase_of_keeps h hversion (hactions ▸ hbound)
  have hagain : runCase language wording later directory c = .ok report :=
    (runCase_eq h.story hactions).trans hrun
  exact assertCase_of_ok hcase hagain

/-! ## Recordings -/

/-- What was seen in a run as a test case with the actions of the run. -/
def RunReport.recording (report : RunReport) (actions : List Nat) : TestCase where
  schemaVersion := TestCase.currentVersion
  actions
  expectedCommands := report.observedCommands
  expectedEnd := report.ending

/-- The recording of a run is read back as it was written and passes as long as the story stays the
same, and it does not pass any more if other commands or another ending are put into it. -/
theorem recording_replays (hrun : runCase language wording files directory testCase = .ok report)
    (hbound : ∀ index ∈ testCase.actions, index < Word.bound) :
    (∀ later path, Keeps files directory (report.recording testCase.actions) later path →
      readCase later path = .ok (report.recording testCase.actions) ∧
        assertCase language wording later directory path = .ok ()) ∧
    ∀ commands ending, commands ≠ report.observedCommands ∨ ending ≠ report.ending →
      ∀ later path, Keeps files directory
        { report.recording testCase.actions with
          expectedCommands := commands
          expectedEnd := ending } later path →
      ∃ mismatch,
        assertCase language wording later directory path = .error (.mismatch mismatch) := by
  constructor
  · intro later path hkeeps
    refine ⟨readCase_of_keeps hkeeps rfl hbound, ?_⟩
    rw [assertCase_of_keeps hkeeps hrun rfl rfl hbound, judge_eq_ok_iff.2 ⟨rfl, rfl⟩]
    rfl
  · intro commands ending hchanged later path hkeeps
    rw [assertCase_of_keeps hkeeps hrun rfl rfl hbound]
    cases hjudge : judge { report.recording testCase.actions with
        expectedCommands := commands
        expectedEnd := ending } report with
    | error mismatch => exact ⟨mismatch, rfl⟩
    | ok _ =>
      obtain ⟨hcommands, hending⟩ := judge_eq_ok_iff.1 hjudge
      rcases hchanged with hne | hne
      · exact absurd hcommands hne
      · exact absurd hending hne

/-- The crossroads and a test case for them. -/
def crossroadsWith (text : String) : Files.FileTree :=
  .directory [("case.json", .file text.toUTF8),
    ("s", .directory [("story.json", .file crossroads.toUTF8)])]

theorem keeps_crossroadsWith {text : String} (hw : c.Writes text) :
    Keeps crossroadsFiles "s" c (crossroadsWith text) "case.json" := by
  have hstory : ∀ bytes story, Files.FileTree.find
      (.directory [("case.json", .file bytes), ("s", .directory [("story.json", .file story)])])
      (Files.Path.join "s" Files.Path.storyFileName) = .ok (.file story) := by
    intro bytes story
    cbv
  have hcase : ∀ bytes story, Files.FileTree.find
      (.directory [("case.json", .file bytes), ("s", .directory [("story.json", .file story)])])
      "case.json" = .ok (.file bytes) := by
    intro bytes story
    cbv
  refine ⟨?_, text, hw, hcase _ _⟩
  rw [storyText_crossroads]
  exact storyText_of_find (hstory _ _) (Files.FileTree.decode_toUTF8 crossroads)

/-- The run around the crossroads passes as it was recorded, and it does not pass without the last
command. -/
theorem recording_replays_of_onceAround :
    runCase .own .own crossroadsFiles "s" onceAround = .ok onceAroundReport ∧
      (∀ index ∈ onceAround.actions, index < Word.bound) ∧
      (readCase (crossroadsWith (onceAroundReport.recording [0, 1]).toJson.pretty) "case.json" =
          .ok (onceAroundReport.recording [0, 1]) ∧
        assertCase .own .own (crossroadsWith (onceAroundReport.recording [0, 1]).toJson.pretty) "s"
          "case.json" = .ok ()) ∧
      ∃ mismatch, assertCase .own .own
        (crossroadsWith (TestCase.toJson { onceAroundReport.recording [0, 1] with
          expectedCommands := onceAroundReport.observedCommands.dropLast }).compact) "s"
        "case.json" = .error (.mismatch mismatch) := by
  have hbound : ∀ index ∈ onceAround.actions, index < Word.bound := by decide
  obtain ⟨hsame, hother⟩ := recording_replays (runCase_onceAround .own) hbound
  have hchanged : onceAroundReport.observedCommands.dropLast ≠ onceAroundReport.observedCommands :=
    by decide
  exact ⟨runCase_onceAround .own, hbound, hsame _ _ (keeps_crossroadsWith .pretty),
    hother _ _ (.inl hchanged) _ _ (keeps_crossroadsWith .compact)⟩

end Case

end BranchingStory
