import BranchingStory.Case.Directory
import BranchingStory.Proofs.Display
import BranchingStory.Proofs.Success
import Mathlib

/-!
# Runs of test cases

A run gives its engine one signal after the other, at a choice the one that the next action says
(`RunState.Gives`), until the story stops. `run_eq_ok_iff` says what a run that succeeds has done:
it has given some signals, all of them with success, and has used up its actions. Everything else
about such runs is read off the signals.

What a run does depends on its actions only as far as it uses them, so the same signals can be given
with other actions behind them (`Signals.withActions`).
-/

namespace BranchingStory

open Playback Playback.Engine

namespace Playback.Engine

/-- The number of the option that a call chooses. -/
def Call.chosen? : Call → Option Nat
  | .choose index => some index
  | _ => none

/-- The numbers of the options that some calls choose, one after the other. -/
def chosen (calls : List Call) : List Nat :=
  calls.filterMap Call.chosen?

/-- A call is the signal that an engine waits for. -/
inductive Due (e : Engine) : Call → Prop
  | advance (hs : e.status = .awaitingAdvance) : Due e .advance
  | choose (index : Nat) (hs : e.status = .awaitingChoice) : Due e (.choose index)

end Playback.Engine

namespace Case

/-- What an engine is doing whose story has stopped. -/
def Ending.status : Ending → Status
  | ended => .ended
  | halted => .halted

namespace RunState

variable {s t u : RunState} {c : Call} {calls : List Call} {report : RunReport}

/-- A state of a run gives a signal with success, and what the next state is then. -/
structure Gives (s : RunState) (c : Call) (t : RunState) : Prop where
  due : s.engine.Due c
  result : (s.engine.call c).result = .ok ()
  engine_eq : t.engine = (s.engine.call c).engine
  commands_eq : t.commands = s.commands ++ (s.engine.call c).commands
  actions_eq : s.actions = c.chosen?.toList ++ t.actions
  used_eq : t.used = s.used + c.chosen?.toList.length
  signals_eq : t.signals = s.signals + 1

/-- A run comes from one state to another by giving signals one after the other. -/
inductive Signals : RunState → List Call → RunState → Prop
  | nil (s : RunState) : Signals s [] s
  | cons {s t u : RunState} {c : Call} {calls : List Call} (h : s.Gives c t)
    (rest : Signals t calls u) : Signals s (c :: calls) u

/-! ## Single signals -/

theorem after_eq_ok_iff {o : Outcome} :
    s.after o = .ok t ↔ o.result = .ok () ∧ t = { s with
      engine := o.engine
      commands := s.commands ++ o.commands
      signals := s.signals + 1 } := by
  rw [after]
  cases o.result with
  | error error => simp
  | ok _ => simp [eq_comm]

/-- A signal takes one round. -/
theorem run_of_gives (h : s.Gives c t) (rounds : Nat) : run (rounds + 1) s = run rounds t := by
  obtain ⟨hdue, hok, hengine, hcommands, hactions, hused, hsignals⟩ := h
  rw [run]
  cases hdue with
  | advance hs =>
    have ht : s.after s.engine.advance = .ok t := by
      refine after_eq_ok_iff.2 ⟨hok, ?_⟩
      cases t
      simp_all [call, Call.chosen?]
    rw [hs, ht]
    rfl
  | choose index hs =>
    obtain ⟨engine, actions, commands, used, signals⟩ := t
    have ha : s.actions = index :: actions := hactions
    have ht : { s with actions, used := s.used + 1 }.after (s.engine.choose index) =
        .ok ⟨engine, actions, commands, used, signals⟩ := by
      refine after_eq_ok_iff.2 ⟨hok, ?_⟩
      simp_all [call, Call.chosen?]
    rw [hs, ha]
    dsimp only
    rw [ht]
    rfl

theorem run_of_stopped {ending : Ending} (hs : s.engine.status = ending.status) (rounds : Nat) :
    run (rounds + 1) s = s.finish ending := by
  rw [run, hs]
  cases ending <;> rfl

theorem finish_eq_ok_iff {ending : Ending} :
    s.finish ending = .ok report ↔
      s.actions = [] ∧ report = ⟨s.commands, s.used, s.signals, ending⟩ := by
  rw [finish]
  cases s.actions with
  | nil => simp [eq_comm]
  | cons index actions => simp

theorem exists_gives_advance (hs : s.engine.status = .awaitingAdvance)
    (hok : s.engine.advance.result = .ok ()) :
    ∃ t, s.Gives .advance t ∧ t.engine = s.engine.advance.engine ∧ t.actions = s.actions := by
  let t : RunState := { s with
    engine := s.engine.advance.engine
    commands := s.commands ++ s.engine.advance.commands
    signals := s.signals + 1 }
  exact ⟨t, ⟨.advance hs, hok, rfl, rfl, rfl, rfl, rfl⟩, rfl, rfl⟩

theorem exists_gives_choose {index : Nat} {actions : List Nat}
    (hs : s.engine.status = .awaitingChoice) (ha : s.actions = index :: actions)
    (hok : (s.engine.choose index).result = .ok ()) :
    ∃ t, s.Gives (.choose index) t ∧ t.engine = (s.engine.choose index).engine ∧
      t.actions = actions := by
  let t : RunState := {
    engine := (s.engine.choose index).engine
    actions
    commands := s.commands ++ (s.engine.choose index).commands
    used := s.used + 1
    signals := s.signals + 1 }
  exact ⟨t, ⟨.choose index hs, hok, rfl, rfl, ha, rfl, rfl⟩, rfl, rfl⟩

theorem after_of_error {o : Outcome} {error : EngineError} (h : o.result = .error error) :
    s.after o = .error (.story (.engine error)) := by
  rw [after, h]

/-- From a state a signal is given, or the run is over: because the story has stopped, or by an
error that has nothing to do with the length of the run. -/
inductive Turn (s : RunState) : Prop
  | gives {c : Call} {t : RunState} (h : s.Gives c t)
  | stopped {ending : Ending} (hs : s.engine.status = ending.status)
  | failed {error : RunError} (hne : error ≠ .tooManySignals)
    (hrun : ∀ rounds, run (rounds + 1) s = .error error)

theorem turn (s : RunState) : s.Turn := by
  cases hs : s.engine.status with
  | idle =>
    have hrun (rounds : Nat) : run (rounds + 1) s = .error (.unexpectedStatus .idle) := by
      rw [run, hs]
    exact .failed (by simp) hrun
  | running =>
    have hrun (rounds : Nat) : run (rounds + 1) s = .error (.unexpectedStatus .running) := by
      rw [run, hs]
    exact .failed (by simp) hrun
  | awaitingAdvance =>
    cases hresult : s.engine.advance.result with
    | ok _ =>
      obtain ⟨t, hgives, -, -⟩ := exists_gives_advance hs hresult
      exact .gives hgives
    | error error =>
      have hrun (rounds : Nat) : run (rounds + 1) s = .error (.story (.engine error)) := by
        rw [run, hs]
        dsimp only
        rw [after_of_error hresult]
        rfl
      exact .failed (by simp) hrun
  | awaitingChoice =>
    cases ha : s.actions with
    | nil =>
      have hrun (rounds : Nat) :
          run (rounds + 1) s = .error (.missingAction (s.commands.length - 1)) := by
        rw [run, hs, ha]
      exact .failed (by simp) hrun
    | cons index actions =>
      cases hresult : (s.engine.choose index).result with
      | ok _ =>
        obtain ⟨t, hgives, -, -⟩ := exists_gives_choose hs ha hresult
        exact .gives hgives
      | error error =>
        have hrun (rounds : Nat) : run (rounds + 1) s = .error (.story (.engine error)) := by
          rw [run, hs, ha]
          dsimp only
          rw [after_of_error hresult]
          rfl
        exact .failed (by simp) hrun
  | ended =>
    have hstopped : s.engine.status = Ending.ended.status := hs
    exact .stopped hstopped
  | halted =>
    have hstopped : s.engine.status = Ending.halted.status := hs
    exact .stopped hstopped

/-! ## Signals one after the other -/

theorem run_of_signals (h : Signals s calls t) (rounds : Nat) :
    run (calls.length + rounds) s = run rounds t := by
  induction h with
  | nil s => rw [List.length_nil, Nat.zero_add]
  | cons hgives _ ih =>
    rw [List.length_cons, Nat.add_right_comm, run_of_gives hgives, ih]

/-- A run succeeds if it comes, within its rounds, to a state where the story has stopped and all
actions are used, and it reports what that state has seen. -/
theorem run_eq_ok_iff {rounds : Nat} :
    run rounds s = .ok report ↔ ∃ calls t, Signals s calls t ∧ calls.length < rounds ∧
      t.engine.status = report.ending.status ∧ t.actions = [] ∧
      report = ⟨t.commands, t.used, t.signals, report.ending⟩ := by
  constructor
  · intro h
    induction rounds generalizing s with
    | zero => exact absurd h (by simp [run])
    | succ rounds ih =>
      cases s.turn with
      | @gives c t hgives =>
        rw [run_of_gives hgives] at h
        obtain ⟨calls, u, hsignals, hlt, hstopped⟩ := ih h
        exact ⟨c :: calls, u, .cons hgives hsignals, Nat.succ_lt_succ hlt, hstopped⟩
      | stopped hs =>
        rw [run_of_stopped hs] at h
        obtain ⟨hactions, rfl⟩ := finish_eq_ok_iff.1 h
        exact ⟨[], s, .nil s, Nat.succ_pos rounds, hs, hactions, rfl⟩
      | failed _ hrun => exact absurd (h.symm.trans (hrun rounds)) (by simp)
  · rintro ⟨calls, t, hsignals, hlt, hs, hactions, hreport⟩
    obtain ⟨left, rfl⟩ := Nat.exists_eq_add_of_lt hlt
    rw [Nat.add_assoc, run_of_signals hsignals, run_of_stopped hs]
    exact finish_eq_ok_iff.2 ⟨hactions, hreport⟩

theorem Signals.commands_eq (h : Signals s calls t) :
    t.commands = s.commands ++ s.engine.recording calls := by
  induction h with
  | nil s => exact (List.append_nil s.commands).symm
  | cons hgives _ ih =>
    rw [ih, hgives.commands_eq, hgives.engine_eq, List.append_assoc]
    rfl

theorem chosen_cons (c : Call) (calls : List Call) :
    chosen (c :: calls) = c.chosen?.toList ++ chosen calls := by
  cases c <;> rfl

/-- The options that are chosen are those that the actions say. -/
theorem Signals.actions_eq (h : Signals s calls t) : s.actions = chosen calls ++ t.actions := by
  induction h with
  | nil s => rfl
  | cons hgives _ ih => rw [hgives.actions_eq, ih, chosen_cons, List.append_assoc]

theorem Signals.used_eq (h : Signals s calls t) : t.used = s.used + (chosen calls).length := by
  induction h with
  | nil s => rfl
  | cons hgives _ ih =>
    rw [ih, hgives.used_eq, chosen_cons, List.length_append, Nat.add_assoc]

theorem Signals.signals_eq (h : Signals s calls t) : t.signals = s.signals + calls.length := by
  induction h with
  | nil s => rfl
  | cons hgives _ ih =>
    rw [ih, hgives.signals_eq, List.length_cons]
    omega

/-- The actions behind those that are used do not matter. -/
theorem Signals.withActions (h : Signals s calls t) (actions : List Nat) :
    Signals { s with actions := chosen calls ++ actions } calls { t with actions } := by
  induction h with
  | nil s => exact .nil _
  | @cons s t u c calls hgives _ ih =>
    refine .cons (t := { t with actions := chosen calls ++ actions }) ?_ ih
    obtain ⟨hdue, hok, hengine, hcommands, -, hused, hsignals⟩ := hgives
    exact ⟨hdue, hok, hengine, hcommands, by rw [chosen_cons, List.append_assoc], hused, hsignals⟩

end RunState

/-! ## Cases -/

/-- The state of a run at its start. -/
def RunState.opened (engine : Engine) (actions : List Nat) (commands : List Command) :
    RunState where
  engine
  actions
  commands
  used := 0
  signals := 0

/-- A text with scripts in a language describes a story that is opened with an engine and shows
these commands. -/
structure Opens (language : Script.Language) (wording : Wording) (text : String) (story : Story)
    (engine : Engine) (commands : List Command) : Prop where
  load : Story.load text language = .ok story
  result : (openStory wording .errors defaultLimit story).result = .ok engine
  commands_eq : (openStory wording .errors defaultLimit story).commands = commands

variable {language : Script.Language} {wording : Wording} {files : Files.FileTree}
  {directory text : String} {story : Story} {engine : Engine} {commands : List Command}

/-- A story that is opened has been started with success. -/
theorem Opens.started (h : Opens language wording text story engine commands) :
    (idle story).start.result = .ok () ∧ engine = (idle story).start.engine ∧
      commands = (idle story).start.commands := by
  obtain ⟨-, hresult, rfl⟩ := h
  rw [openStory] at hresult ⊢
  cases hgate : Review.Gate.errors.admit story with
  | error blocked =>
    rw [hgate] at hresult
    exact absurd hresult (by simp)
  | ok findings =>
    rw [hgate] at hresult
    dsimp only at hresult ⊢
    split at hresult
    · exact absurd hresult (by simp)
    · next hok => exact ⟨hok, (Except.ok.inj hresult).symm, rfl⟩

/-- A story in which no errors are found is opened if it can be started. -/
theorem opens_of_start (hload : Story.load text language = .ok story)
    (herrors : Review.hasErrors (Review.review story) = false)
    (hok : (idle story).start.result = .ok ()) :
    Opens language wording text story (idle story).start.engine (idle story).start.commands := by
  have hgate : Review.Gate.errors.admit story = .ok (Review.review story) := by
    unfold Review.Gate.admit
    dsimp only
    rw [Review.Gate.blocks, herrors]
    rfl
  refine ⟨hload, ?_, ?_⟩
  · rw [openStory, hgate]
    dsimp only
    rw [hok]
  · rw [openStory, hgate]

theorem playText_of_opens (h : Opens language wording text story engine commands)
    (actions : List Nat) :
    playText language wording actions text =
      (RunState.opened engine actions commands).run maxSignals := by
  obtain ⟨hload, hresult, rfl⟩ := h
  rw [playText, hload]
  dsimp only
  rw [play, hresult]
  rfl

/-- A text that is played without an error about the story describes one that can be opened. -/
theorem exists_opens_of_playText {actions : List Nat}
    (h : ∀ failure, playText language wording actions text ≠ .error (.story failure)) :
    ∃ story engine commands, Opens language wording text story engine commands := by
  cases hload : Story.load text language with
  | error error =>
    refine absurd ?_ (h (.load error))
    rw [playText, hload]
  | ok story =>
    cases hresult : (openStory wording .errors defaultLimit story).result with
    | error error =>
      refine absurd ?_ (h (.opening error))
      rw [playText, hload]
      dsimp only
      rw [play, hresult]
    | ok engine => exact ⟨story, engine, _, hload, hresult, rfl⟩

/-- A case that can be run is run on a story that can be opened. -/
theorem exists_opens_of_runCase {testCase : TestCase} {report : RunReport}
    (h : runCase language wording files directory testCase = .ok report) :
    ∃ text story engine commands, storyText files directory = .ok text ∧
      Opens language wording text story engine commands := by
  rw [runCase, bind_eq_ok] at h
  obtain ⟨text, htext, h⟩ := h
  rw [mapError_eq_ok] at h
  have hplays : ∀ failure,
      playText language wording testCase.actions text ≠ .error (.story failure) := by
    simp [h]
  obtain ⟨story, engine, commands, hopens⟩ := exists_opens_of_playText hplays
  exact ⟨text, story, engine, commands, htext, hopens⟩

/-- The text of the story in a directory is that of a file. -/
theorem exists_find_of_storyText (h : storyText files directory = .ok text) :
    ∃ bytes, files.find (Files.Path.join directory Files.Path.storyFileName) = .ok (.file bytes) ∧
      Files.FileTree.decode bytes = .ok text := by
  rw [storyText, bind_eq_ok] at h
  obtain ⟨path, hpath, hread⟩ := h
  rw [mapError_eq_ok, Files.FileTree.read, bind_eq_ok] at hread
  obtain ⟨tree, hfind, htext⟩ := hread
  rw [storyPath] at hpath
  split at hpath
  · next bytes hfile =>
    obtain rfl := Except.ok.inj hpath
    obtain rfl := Except.ok.inj (hfind.symm.trans hfile)
    exact ⟨bytes, hfile, htext⟩
  · exact absurd hpath (by simp)

theorem storyText_of_find {bytes : ByteArray}
    (hfind : files.find (Files.Path.join directory Files.Path.storyFileName) = .ok (.file bytes))
    (htext : Files.FileTree.decode bytes = .ok text) : storyText files directory = .ok text := by
  have hpath : storyPath files directory =
      .ok (Files.Path.join directory Files.Path.storyFileName) := by
    rw [storyPath, hfind]
  rw [storyText, bind_eq_ok]
  refine ⟨_, hpath, ?_⟩
  rw [mapError_eq_ok, Files.FileTree.read, bind_eq_ok]
  exact ⟨_, hfind, htext⟩

/-- Running a case on a story that can be opened. -/
theorem runCase_of_opens (htext : storyText files directory = .ok text)
    (h : Opens language wording text story engine commands) (testCase : TestCase) :
    runCase language wording files directory testCase =
      ((RunState.opened engine testCase.actions commands).run maxSignals).mapError .run := by
  rw [runCase, htext, ← playText_of_opens h]
  rfl

/-! ## An example -/

/-- A story with a choice that leads back to itself, as a text. -/
def crossroads : String :=
  "\x7b\"start\": \"A\", \"nodes\": \x7b\"A\": [" ++
    "\x7b\"kind\": \"choice\", \"options\": [[\"Round\", \"A\"], [\"On\", null]]\x7d, " ++
    "\x7b\"kind\": \"narration\", \"text\": \"There.\"\x7d, " ++
    "\x7b\"kind\": \"end_story\"\x7d]\x7d\x7d"

/-- The story that the text describes. -/
def crossroadsStory : Story where
  start := "A"
  vars := none
  nodes := .group [("A", .leaf [
    .choice none [⟨some "Round", some "A", none⟩, ⟨some "On", none, none⟩],
    .narration (some "There."), .ending])]
  characters := []
  places := []

/-- The story in its directory. -/
def crossroadsFiles : Files.FileTree :=
  .directory [("s", .directory [("story.json", .file crossroads.toUTF8)])]

/-- A case for the story: once around, and then on. -/
def onceAround : TestCase where
  schemaVersion := TestCase.currentVersion
  actions := [0, 1]
  expectedCommands := []
  expectedEnd := .ended

/-- What is seen in a run of the case. -/
def onceAroundReport : RunReport where
  observedCommands := [.showChoices none ["Round", "On"], .showChoices none ["Round", "On"],
    .setDialogue none "There.", .showEnded]
  consumedActions := 2
  signals := 3
  ending := .ended

theorem crossroads_opens (language : Script.Language) :
    Opens language .own crossroads crossroadsStory (idle crossroadsStory).start.engine
      (idle crossroadsStory).start.commands :=
  opens_of_start (by cbv) (by decide +kernel) (by cbv)

theorem storyText_crossroads : storyText crossroadsFiles "s" = .ok crossroads := by
  have hfind : ∀ bytes, Files.FileTree.find
      (.directory [("s", .directory [("story.json", .file bytes)])])
      (Files.Path.join "s" Files.Path.storyFileName) = .ok (.file bytes) := by
    intro bytes
    cbv
  exact storyText_of_find (hfind _) (Files.FileTree.decode_toUTF8 crossroads)

/-- There are no scripts in the story, so their language does not matter. -/
theorem runCase_onceAround (language : Script.Language) :
    runCase language .own crossroadsFiles "s" onceAround = .ok onceAroundReport := by
  have hrun : (RunState.opened (idle crossroadsStory).start.engine onceAround.actions
      (idle crossroadsStory).start.commands).run maxSignals = .ok onceAroundReport := by
    cbv
  rw [runCase_of_opens storyText_crossroads (crossroads_opens language), hrun]
  rfl

end Case

end BranchingStory
