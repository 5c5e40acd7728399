import BranchingStory.Proofs.CaseRuns

/-!
# The limit of signals

A run may give only so many signals, so that it comes to an end whatever the story does. How far a
run comes is settled by the case and the story (`Reaches`), and the limit says what becomes of it
(`signal_limit`): a run succeeds if the story stops after fewer signals than the limit, and it fails
exactly if as many signals as the limit can be given. That the story has stopped is seen only in the
round after the last signal, so a story that stops just with the last signal that the limit allows
is played to its end, and its run fails nevertheless.
-/

namespace BranchingStory

open Playback Playback.Engine

namespace Case

namespace RunState

variable {s t : RunState} {calls : List Call}

theorem finish_ne_tooManySignals (s : RunState) (ending : Ending) :
    s.finish ending ≠ .error .tooManySignals := by
  rw [finish]
  split <;> simp

/-- A run fails for its length if it has given a signal in each of its rounds. -/
theorem run_eq_tooManySignals_iff {rounds : Nat} :
    run rounds s = .error .tooManySignals ↔
      ∃ calls t, Signals s calls t ∧ calls.length = rounds := by
  constructor
  · intro h
    induction rounds generalizing s with
    | zero => exact ⟨[], s, .nil s, rfl⟩
    | succ rounds ih =>
      cases s.turn with
      | @gives c t hgives =>
        rw [run_of_gives hgives] at h
        obtain ⟨calls, u, hsignals, hlen⟩ := ih h
        exact ⟨c :: calls, u, .cons hgives hsignals, congrArg (· + 1) hlen⟩
      | stopped hs =>
        rw [run_of_stopped hs] at h
        exact absurd h (finish_ne_tooManySignals s _)
      | failed hne hrun => exact absurd (Except.error.inj ((hrun rounds).symm.trans h)) hne
  · rintro ⟨calls, t, hsignals, rfl⟩
    exact run_of_signals hsignals 0

/-- The first signals of a run can be given without the others. -/
theorem Signals.take (h : Signals s calls t) (n : Nat) : ∃ u, Signals s (calls.take n) u := by
  induction h generalizing n with
  | nil s =>
    rw [List.take_nil]
    exact ⟨s, .nil s⟩
  | @cons s t u c calls hgives _ ih =>
    cases n with
    | zero => exact ⟨s, .nil s⟩
    | succ n =>
      obtain ⟨v, hfirst⟩ := ih n
      exact ⟨v, .cons hgives hfirst⟩

theorem Signals.append (h : Signals s calls t) {more : List Call} {u : RunState}
    (h' : Signals t more u) : Signals s (calls ++ more) u := by
  induction h with
  | nil s => exact h'
  | cons hgives _ ih => exact .cons hgives (ih h')

/-- A choice that leads back to where it was made can be made again and again. -/
theorem exists_signals_replicate {index n : Nat} {actions : List Nat}
    (hs : s.engine.status = .awaitingChoice) (hok : (s.engine.choose index).result = .ok ())
    (hback : (s.engine.choose index).engine = s.engine)
    (ha : s.actions = List.replicate n index ++ actions) :
    ∃ t, Signals s (List.replicate n (.choose index)) t ∧ t.engine = s.engine ∧
      t.actions = actions := by
  induction n generalizing s with
  | zero => exact ⟨s, .nil s, rfl, ha⟩
  | succ n ih =>
    rw [List.replicate_succ, List.cons_append] at ha
    obtain ⟨t, hgives, hengine, hrest⟩ := exists_gives_choose hs ha hok
    rw [hback] at hengine
    rw [← hengine] at hs hok hback
    obtain ⟨u, hsignals, hsame, hleft⟩ := ih hs hok hback hrest
    exact ⟨u, .cons hgives hsignals, hsame.trans hengine, hleft⟩

end RunState

/-! ## Cases -/

variable {language : Script.Language} {wording : Wording} {files : Files.FileTree}
  {directory : String} {testCase : TestCase} {calls : List Call} {t : RunState}

/-- A case leads, by giving signals one after the other, from the start of the story in a directory
to a state of its run. -/
def Reaches (language : Script.Language) (wording : Wording) (files : Files.FileTree)
    (directory : String) (testCase : TestCase) (calls : List Call) (t : RunState) : Prop :=
  ∃ text story engine commands, storyText files directory = .ok text ∧
    Opens language wording text story engine commands ∧
    RunState.Signals (.opened engine testCase.actions commands) calls t

theorem storyText_ne_run (error : RunError) : storyText files directory ≠ .error (.run error) := by
  intro h
  rw [storyText, bind_eq_error] at h
  rcases h with h | ⟨path, -, h⟩
  · rw [storyPath] at h
    split at h <;> simp at h
  · obtain ⟨problem, -, hread⟩ := mapError_eq_error.1 h
    exact CaseError.noConfusion hread

/-- A run that fails for its length is one of a story that can be opened. -/
theorem exists_opens_of_tooManySignals
    (h : runCase language wording files directory testCase = .error (.run .tooManySignals)) :
    ∃ text story engine commands, storyText files directory = .ok text ∧
      Opens language wording text story engine commands := by
  rw [runCase, bind_eq_error] at h
  rcases h with h | ⟨text, htext, h⟩
  · exact absurd h (storyText_ne_run _)
  · obtain ⟨error, hplay, herror⟩ := mapError_eq_error.1 h
    obtain rfl := CaseError.run.inj herror
    have hplays : ∀ failure,
        playText language wording testCase.actions text ≠ .error (.story failure) := by
      simp [hplay]
    obtain ⟨story, engine, commands, hopens⟩ := exists_opens_of_playText hplays
    exact ⟨text, story, engine, commands, htext, hopens⟩

theorem runCase_eq_tooManySignals_iff :
    runCase language wording files directory testCase = .error (.run .tooManySignals) ↔
      ∃ calls t, Reaches language wording files directory testCase calls t ∧
        calls.length = maxSignals := by
  constructor
  · intro h
    obtain ⟨text, story, engine, commands, htext, hopens⟩ := exists_opens_of_tooManySignals h
    rw [runCase_of_opens htext hopens] at h
    obtain ⟨error, hrun, herror⟩ := mapError_eq_error.1 h
    obtain rfl := CaseError.run.inj herror
    obtain ⟨calls, t, hsignals, hlen⟩ := RunState.run_eq_tooManySignals_iff.1 hrun
    exact ⟨calls, t, ⟨text, story, engine, commands, htext, hopens, hsignals⟩, hlen⟩
  · rintro ⟨calls, t, ⟨text, story, engine, commands, htext, hopens, hsignals⟩, hlen⟩
    rw [runCase_of_opens htext hopens, mapError_eq_error]
    exact ⟨_, RunState.run_eq_tooManySignals_iff.2 ⟨calls, t, hsignals, hlen⟩, rfl⟩

/-- If a case plays the story to its end, then its run succeeds if it has given fewer signals than
the limit. A run fails for its length if it can give as many signals as the limit, whether the story
has stopped after them or not. -/
theorem signal_limit (language : Script.Language) (wording : Wording) (files : Files.FileTree)
    (directory : String) (testCase : TestCase) :
    (∀ calls t ending, Reaches language wording files directory testCase calls t →
      t.engine.status = Ending.status ending → t.actions = [] →
        runCase language wording files directory testCase =
          if calls.length < maxSignals then .ok ⟨t.commands, t.used, calls.length, ending⟩
          else .error (.run .tooManySignals)) ∧
      (runCase language wording files directory testCase = .error (.run .tooManySignals) ↔
        ∃ calls t, Reaches language wording files directory testCase calls t ∧
          calls.length = maxSignals) := by
  refine ⟨?_, runCase_eq_tooManySignals_iff⟩
  rintro calls t ending ⟨text, story, engine, commands, htext, hopens, hsignals⟩ hs ha
  by_cases hlt : calls.length < maxSignals
  · rw [if_pos hlt, runCase_of_opens htext hopens, mapError_eq_ok]
    refine RunState.run_eq_ok_iff.2 ⟨calls, t, hsignals, hlt, hs, ha, ?_⟩
    rw [hsignals.signals_eq, RunState.opened, Nat.zero_add]
  · rw [if_neg hlt, runCase_eq_tooManySignals_iff]
    obtain ⟨u, hfirst⟩ := hsignals.take maxSignals
    have hlen : (calls.take maxSignals).length = maxSignals :=
      List.length_take_of_le (Nat.le_of_not_lt hlt)
    exact ⟨_, u, ⟨text, story, engine, commands, htext, hopens, hfirst⟩, hlen⟩

/-! ## An example -/

/-- A case for the crossroads: some times around, and then on. -/
def timesAround (n : Nat) : TestCase where
  schemaVersion := TestCase.currentVersion
  actions := List.replicate n 0 ++ [1]
  expectedCommands := []
  expectedEnd := .ended

/-- The story is played to its end, with one signal for each time around and two more. -/
theorem reaches_timesAround (language : Script.Language) (n : Nat) :
    ∃ calls t, Reaches language .own crossroadsFiles "s" (timesAround n) calls t ∧
      calls.length = n + 2 ∧ t.engine.status = Ending.ended.status ∧ t.actions = [] := by
  let s : RunState := .opened (idle crossroadsStory).start.engine (timesAround n).actions
    (idle crossroadsStory).start.commands
  have hs : s.engine.status = .awaitingChoice := by cbv
  have hagain : (s.engine.choose 0).result = .ok () := by cbv
  have hback : (s.engine.choose 0).engine = s.engine := by cbv
  have hon : (s.engine.choose 1).result = .ok () := by cbv
  have hline : (s.engine.choose 1).engine.status = .awaitingAdvance := by cbv
  have hread : (s.engine.choose 1).engine.advance.result = .ok () := by cbv
  have hended : (s.engine.choose 1).engine.advance.engine.status = .ended := by cbv
  obtain ⟨t, haround, hsame, hleft⟩ := RunState.exists_signals_replicate hs hagain hback rfl
  rw [← hsame] at hs hon hline hread hended
  obtain ⟨u, hchoose, hthere, hnone⟩ := RunState.exists_gives_choose hs hleft hon
  rw [← hthere] at hline hread hended
  obtain ⟨v, hadvance, hend, hsame⟩ := RunState.exists_gives_advance hline hread
  refine ⟨_, v, ⟨_, _, _, _, storyText_crossroads, crossroads_opens language,
    haround.append (.cons hchoose (.cons hadvance (.nil v)))⟩, ?_, ?_, ?_⟩
  · simp
  · rw [hend, hended]
    rfl
  · rw [hsame, hnone]

/-- After 4997 times around, the story ends with one signal less than the limit, and its run
succeeds. -/
theorem signal_limit_of_timesAround :
    ∃ calls t, (Reaches .own .own crossroadsFiles "s" (timesAround 4997) calls t ∧
        t.engine.status = Ending.ended.status ∧ t.actions = []) ∧
      runCase .own .own crossroadsFiles "s" (timesAround 4997) =
        .ok ⟨t.commands, t.used, 4999, .ended⟩ := by
  obtain ⟨calls, t, hreaches, hlen, hs, ha⟩ := reaches_timesAround .own 4997
  refine ⟨calls, t, ⟨hreaches, hs, ha⟩, ?_⟩
  have hrun := (signal_limit .own .own crossroadsFiles "s" (timesAround 4997)).1 calls t .ended
    hreaches hs ha
  rwa [hlen] at hrun

/-- Once more around, and the story ends with just as many signals as are allowed; its run fails. -/
theorem tooManySignals_of_timesAround :
    (∃ calls t, Reaches .own .own crossroadsFiles "s" (timesAround 4998) calls t ∧
        calls.length = maxSignals ∧ t.engine.status = Ending.ended.status ∧ t.actions = []) ∧
      runCase .own .own crossroadsFiles "s" (timesAround 4998) = .error (.run .tooManySignals) := by
  obtain ⟨calls, t, hreaches, hlen, hs, ha⟩ := reaches_timesAround .own 4998
  exact ⟨⟨calls, t, hreaches, hlen, hs, ha⟩,
    runCase_eq_tooManySignals_iff.2 ⟨calls, t, hreaches, hlen⟩⟩

end Case

end BranchingStory
