import BranchingStory.Proofs.CaseRuns

/-!
# Actions that a story asks for

A run needs one action for every choice that the story shows, and gives one signal for every line
and every choice. So a case that can be run has just the right number of actions: with fewer of them
the run stops at the first choice that is left, and with more of them some are left in the end
(`exact_actions`).

Both rest on what single calls show. The last command of a call, and no other one, is the prompt for
what the engine waits for then (`asks_call`), so at every time as many choices and lines are shown
as have been answered, and one more where the engine waits for an answer (`Tallied`).
-/

namespace BranchingStory

open Playback Playback.Engine

namespace Playback

/-- Whether a command shows a choice. -/
def Command.isChoices : Command → Bool
  | showChoices _ _ => true
  | _ => false

/-- Whether a command shows a line. -/
def Command.isLine : Command → Bool
  | setDialogue _ _ => true
  | _ => false

/-- How many choices are shown and not made yet. -/
def Status.openChoices : Status → Nat
  | awaitingChoice => 1
  | _ => 0

/-- How many lines are shown and not read yet. -/
def Status.openLines : Status → Nat
  | awaitingAdvance => 1
  | _ => 0

/-! ## Prompts of single calls -/

/-- A call prompts the player for what the engine waits for, or tells that the story has ended, and
it does so with its last command and no other one. -/
inductive Outcome.Asks (story : Story) (o : Outcome) : Prop
  | silent (hs : o.engine.status = .halted) (hn : ∀ command ∈ o.commands, command.isPrompt = false)
  | prompt {step : Step} {command : Command} {earlier : List Command}
    (hw : story.Shows o.engine.status step command) (hc : o.commands = earlier ++ [command])
    (hn : ∀ command ∈ earlier, command.isPrompt = false)

namespace Engine

variable {story : Story} {e : Engine}

theorem forall_mem_record {events : List Event} {scene : Scene} {place : Cursor} {step : Step}
    (h : ∀ command ∈ Event.commands events, command.isPrompt = false)
    (hm : ∀ status, (story.perform scene place step).move ≠ .pause status) :
    ∀ command ∈ Event.commands (events ++ story.record scene place step),
      command.isPrompt = false := by
  rw [Event.commands_append]
  exact List.forall_mem_append.2 ⟨h, fun _ => Story.isPrompt_of_mem_record hm⟩

-- Until a walk pauses there are no prompts.
theorem askRule (story : Story) (limit : Nat) :
    WalkRule story limit
      (fun events _ _ => ∀ command ∈ Event.commands events, command.isPrompt = false)
      (Outcome.Asks story) where
  tripped h := .silent rfl h
  lost h _ := by
    refine .silent rfl ?_
    rwa [Outcome.commands, Event.commands_concat_of_none _ rfl]
  exhausted h _ _ := by
    refine .silent rfl ?_
    rwa [Outcome.commands, Event.commands_concat_of_none _ rfl]
  next h _ hm := forall_mem_record h fun _ hp => by simp [hm] at hp
  goTo h _ hm := forall_mem_record h fun _ hp => by simp [hm] at hp
  pause h _ hm := by
    obtain ⟨command, hcommand, hw⟩ := Story.exists_shows_of_pause hm
    refine .prompt hw ?_ h
    rw [Outcome.commands, Event.commands_append, hcommand]
  halt h _ hm := .silent rfl (forall_mem_record h fun _ hp => by simp [hm] at hp)
  fail h _ hm := by
    refine .silent rfl ?_
    rw [Outcome.commands, Event.commands_concat_of_none _ rfl]
    exact forall_mem_record h fun _ hp => by simp [hm] at hp

/-- A call that succeeds, and that does not come too late, prompts for what the engine waits for. -/
theorem asks_call {c : Call} (hf : e.status.isFinished = false)
    (hok : (e.call c).result = .ok ()) : (e.call c).Asks e.story := by
  have hcalled := e.called c
  generalize e.call c = o at hcalled hok
  cases hcalled with
  | refused h => exact absurd hok (by simp [fail])
  | ignored _ hfinished => exact absurd (hf.symm.trans hfinished) (by simp)
  | unrestarted _ => exact absurd hok (by simp)
  | effectFailed _ _ _ => exact absurd hok (by simp)
  | stranded _ _ _ _ _ => exact .silent rfl (List.forall_mem_nil _)
  | walked hd =>
    refine Story.walk_spec (askRule e.story e.limit) _ ?_
    rw [hd.commands_eq_nil]
    exact List.forall_mem_nil _

theorem Due.isFinished_eq_false {c : Call} (h : e.Due c) : e.status.isFinished = false := by
  cases h with
  | advance hs | choose _ hs => rw [hs]; rfl

end Engine

/-! ## Counting prompts -/

/-- If all commands of a kind are prompts, and a status tells how many commands of that kind its
prompt is, then it tells how many of them a call has shown. -/
theorem Outcome.Asks.countP_eq {story : Story} {o : Outcome} {p : Command → Bool}
    {shown : Status → Nat} (h : o.Asks story) (hp : ∀ command, p command → command.isPrompt)
    (hhalted : shown .halted = 0)
    (hshows : ∀ {status : Status} {step : Step} {command : Command},
      story.Shows status step command → [command].countP p = shown status) :
    o.commands.countP p = shown o.engine.status := by
  have hnone : ∀ {commands : List Command}, (∀ c ∈ commands, c.isPrompt = false) →
      commands.countP p = 0 := by
    intro commands hn
    refine List.countP_eq_zero.2 fun c hc hpc => ?_
    exact absurd ((hn c hc).symm.trans (hp c hpc)) (by simp)
  cases h with
  | silent hs hn => rw [hs, hhalted, hnone hn]
  | prompt hw hc hn => rw [hc, List.countP_append, hnone hn, Nat.zero_add, hshows hw]

/-- As many choices are shown by a call as are open after it. -/
theorem Outcome.Asks.countP_isChoices {story : Story} {o : Outcome} (h : o.Asks story) :
    o.commands.countP Command.isChoices = o.engine.status.openChoices := by
  refine h.countP_eq (fun command hc => ?_) rfl fun hw => ?_
  · cases command <;> simp_all [Command.isChoices, Command.isPrompt]
  · cases hw <;> rfl

/-- As many lines are shown by a call as are open after it. -/
theorem Outcome.Asks.countP_isLine {story : Story} {o : Outcome} (h : o.Asks story) :
    o.commands.countP Command.isLine = o.engine.status.openLines := by
  refine h.countP_eq (fun command hc => ?_) rfl fun hw => ?_
  · cases command <;> simp_all [Command.isLine, Command.isPrompt]
  · cases hw <;> rfl

/-- Where a choice is to be made after a call, the last command of the call shows it. -/
theorem Outcome.Asks.exists_showChoices {story : Story} {o : Outcome} (h : o.Asks story)
    (hs : o.engine.status = .awaitingChoice) :
    ∃ earlier prompt labels, o.commands = earlier ++ [.showChoices prompt labels] := by
  cases h with
  | silent hh _ => exact absurd (hs.symm.trans hh) (by simp)
  | prompt hw hc _ =>
    rw [hs] at hw
    cases hw with
    | choice prompt _ => exact ⟨_, prompt, _, hc⟩

/-- A signal answers the choice or the line that is open. -/
theorem Engine.Due.open_eq {e : Engine} {c : Call} (h : e.Due c) :
    c.chosen?.toList.length = e.status.openChoices ∧
      e.status.openChoices + e.status.openLines = 1 := by
  cases h with
  | advance hs | choose _ hs => rw [hs]; exact ⟨rfl, rfl⟩

end Playback

namespace Case

open RunState

variable {s t : RunState} {c : Call} {calls : List Call} {language : Script.Language}
  {wording : Wording} {files : Files.FileTree} {directory text : String} {story : Story}
  {engine : Engine} {commands : List Command}

/-- In a state of a run every choice and every line that was shown has been answered, except for one
that the engine waits for, and a choice that it waits for was shown last. -/
structure RunState.Tallied (s : RunState) : Prop where
  choices : s.commands.countP Command.isChoices = s.used + s.engine.status.openChoices
  lines : s.used + s.commands.countP Command.isLine = s.signals + s.engine.status.openLines
  shown : s.engine.status = .awaitingChoice →
    ∃ earlier prompt labels, s.commands = earlier ++ [.showChoices prompt labels]

theorem RunState.Tallied.gives (hs : s.Tallied) (h : s.Gives c t) : t.Tallied := by
  have hasks := asks_call h.due.isFinished_eq_false h.result
  have hchoices := hasks.countP_isChoices
  have hlines := hasks.countP_isLine
  have hshown := hasks.exists_showChoices
  rw [← h.engine_eq] at hchoices hlines hshown
  obtain ⟨hchosen, hopen⟩ := h.due.open_eq
  have hused := h.used_eq
  have hsignals := h.signals_eq
  have hbefore := hs.choices
  have hread := hs.lines
  refine ⟨?_, ?_, fun hwaits => ?_⟩
  · rw [h.commands_eq, List.countP_append, hchoices]
    omega
  · rw [h.commands_eq, List.countP_append, hlines]
    omega
  · obtain ⟨earlier, prompt, labels, hcommands⟩ := hshown hwaits
    exact ⟨s.commands ++ earlier, prompt, labels, by
      rw [h.commands_eq, hcommands, List.append_assoc]⟩

theorem RunState.Tallied.signals (hs : s.Tallied) (h : Signals s calls t) : t.Tallied := by
  induction h with
  | nil s => exact hs
  | cons hgives _ ih => exact ih (hs.gives hgives)

theorem Opens.tallied (h : Opens language wording text story engine commands) (actions : List Nat) :
    (opened engine actions commands).Tallied := by
  obtain ⟨hok, rfl, rfl⟩ := h.started
  have hasks : (idle story).start.Asks story := asks_call (c := .start) rfl hok
  refine ⟨?_, ?_, hasks.exists_showChoices⟩
  · rw [opened, hasks.countP_isChoices, Nat.zero_add]
  · rw [opened, hasks.countP_isLine, Nat.zero_add]

/-! ## Fewer and more actions -/

/-- A run whose actions are used up in the end comes to a choice at which any number of them is
left. -/
theorem RunState.Signals.exists_left (h : Signals s calls t) {shorter left : List Nat}
    (hs : s.actions = shorter ++ left) (hleft : left ≠ []) (ht : t.actions = []) :
    ∃ first rest m, calls = first ++ rest ∧ Signals s first m ∧ Signals m rest t ∧
      m.actions = left ∧ m.engine.status = .awaitingChoice := by
  induction h generalizing shorter with
  | nil s =>
    rw [ht] at hs
    exact absurd (List.append_eq_nil_iff.1 hs.symm).2 hleft
  | @cons s u t c calls hgives hrest ih =>
    have hactions := hgives.actions_eq
    -- The choice is here, or it comes later with one action less if one is used here.
    cases hgives.due with
    | advance hwaits =>
      obtain ⟨first, rest, m, rfl, hfirst, hlast, hm⟩ := ih (hactions.symm.trans hs) ht
      exact ⟨_ :: first, rest, m, rfl, .cons hgives hfirst, hlast, hm⟩
    | choose index hwaits =>
      cases shorter with
      | nil => exact ⟨[], _, s, rfl, .nil s, .cons hgives hrest, hs, hwaits⟩
      | cons action shorter =>
        obtain ⟨-, hnext⟩ := List.cons.inj (hactions.symm.trans hs)
        obtain ⟨first, rest, m, rfl, hfirst, hlast, hm⟩ := ih hnext ht
        exact ⟨_ :: first, rest, m, rfl, .cons hgives hfirst, hlast, hm⟩

theorem RunState.run_of_missing (hs : s.engine.status = .awaitingChoice) (ha : s.actions = [])
    (rounds : Nat) : run (rounds + 1) s = .error (.missingAction (s.commands.length - 1)) := by
  rw [run, hs, ha]

/-- With fewer actions a run comes to the same choice and finds no action there. -/
theorem RunState.Signals.run_of_shorter (h : Signals s calls t) {rounds : Nat}
    (hrounds : calls.length < rounds) {shorter left : List Nat} (hs : s.actions = shorter ++ left)
    (hleft : left ≠ []) (ht : t.actions = []) :
    ∃ first m rest, Signals s first m ∧ Signals m rest t ∧ m.engine.status = .awaitingChoice ∧
      chosen first = shorter ∧
      run rounds { s with actions := shorter } =
        .error (.missingAction (m.commands.length - 1)) := by
  obtain ⟨first, rest, m, rfl, hfirst, hlast, rfl, hwaits⟩ := h.exists_left hs hleft ht
  have hchosen : chosen first = shorter :=
    List.append_cancel_right (hfirst.actions_eq.symm.trans hs)
  refine ⟨first, m, rest, hfirst, hlast, hwaits, hchosen, ?_⟩
  have hsame := hfirst.withActions []
  rw [List.append_nil, hchosen] at hsame
  obtain ⟨more, rfl⟩ : ∃ more, rounds = first.length + (more + 1) := by
    rw [List.length_append] at hrounds
    exact ⟨rounds - first.length - 1, by omega⟩
  rw [run_of_signals hsame]
  exact run_of_missing (s := { m with actions := [] }) hwaits rfl more

/-- With more actions a run comes to the same end and has some of them left. -/
theorem RunState.Signals.run_of_longer (h : Signals s calls t) {rounds : Nat}
    (hrounds : calls.length < rounds) {ending : Ending} (hstopped : t.engine.status = ending.status)
    (ht : t.actions = []) {left : List Nat} (hleft : left ≠ []) :
    run rounds { s with actions := s.actions ++ left } =
      .error (.unusedActions t.used (t.used + left.length)) := by
  have hsame := h.withActions left
  rw [← List.append_nil (chosen calls), ← ht, ← h.actions_eq] at hsame
  obtain ⟨more, rfl⟩ := Nat.exists_eq_add_of_lt hrounds
  have hstop : run (more + 1) { t with actions := left } =
      { t with actions := left }.finish ending := by
    refine run_of_stopped ?_ more
    exact hstopped
  rw [Nat.add_assoc, run_of_signals hsame, hstop, finish]
  cases left with
  | nil => exact absurd rfl hleft
  | cons index rest => rfl

/-! ## Cases -/

/-- The actions of a case are just those that the story asks for in a run with a report. -/
structure ExactActions (language : Script.Language) (wording : Wording) (files : Files.FileTree)
    (directory : String) (testCase : TestCase) (report : RunReport) : Prop where
  /-- All actions are used, one for every choice that is shown. -/
  consumed : report.consumedActions = testCase.actions.length
  choices : report.observedCommands.countP Command.isChoices = testCase.actions.length
  /-- A signal is given for every choice and every line. -/
  signals : report.signals = report.observedCommands.countP Command.isChoices +
    report.observedCommands.countP Command.isLine
  /-- With fewer actions the first choice that is left is the one that is complained about. -/
  shorter : ∀ other : TestCase, other.actions <+: testCase.actions →
    other.actions ≠ testCase.actions → ∃ index prompt labels,
      runCase language wording files directory other = .error (.run (.missingAction index)) ∧
      report.observedCommands[index]? = some (.showChoices prompt labels) ∧
      (report.observedCommands.take index).countP Command.isChoices = other.actions.length
  /-- With more actions those behind are left. -/
  longer : ∀ other : TestCase, testCase.actions <+: other.actions →
    other.actions ≠ testCase.actions →
      runCase language wording files directory other =
        .error (.run (.unusedActions testCase.actions.length other.actions.length))

/-- The command with the number that is complained about shows the first choice that is left. -/
theorem RunState.Tallied.missing (hs : s.Tallied) (hwaits : s.engine.status = .awaitingChoice) :
    ∃ prompt labels, s.commands[s.commands.length - 1]? = some (.showChoices prompt labels) ∧
      (s.commands.take (s.commands.length - 1)).countP Command.isChoices = s.used := by
  obtain ⟨earlier, prompt, labels, hcommands⟩ := hs.shown hwaits
  have hcount := hs.choices
  rw [hwaits, hcommands, List.countP_append] at hcount
  refine ⟨prompt, labels, ?_, ?_⟩
  · simp [hcommands]
  · have htake : s.commands.take (s.commands.length - 1) = earlier := by simp [hcommands]
    rw [htake]
    exact Nat.add_right_cancel hcount

/-- A run that has stopped with no actions left has used one for every choice, and has given a
signal for every choice and every line. -/
theorem Opens.counts (h : Opens language wording text story engine commands) {actions : List Nat}
    (hsignals : Signals (opened engine actions commands) calls t) {ending : Ending}
    (hstopped : t.engine.status = ending.status) (hused : t.actions = []) :
    t.used = actions.length ∧ t.commands.countP Command.isChoices = actions.length ∧
      t.signals = t.commands.countP Command.isChoices + t.commands.countP Command.isLine := by
  have htallied := (h.tallied actions).signals hsignals
  have hopen : t.engine.status.openChoices = 0 ∧ t.engine.status.openLines = 0 := by
    rw [hstopped]
    cases ending <;> exact ⟨rfl, rfl⟩
  have hcount : t.used = actions.length := by
    have hactions : actions = chosen calls ++ t.actions := hsignals.actions_eq
    rw [hused, List.append_nil] at hactions
    rw [hsignals.used_eq, ← hactions, opened, Nat.zero_add]
  have hchoices := htallied.choices
  have hlines := htallied.lines
  rw [hopen.1, Nat.add_zero] at hchoices
  rw [hopen.2, Nat.add_zero] at hlines
  exact ⟨hcount, hchoices.trans hcount, by omega⟩

/-- With fewer actions a run complains about the first choice that is left. -/
theorem Opens.run_of_shorter (h : Opens language wording text story engine commands)
    {shorter left : List Nat}
    (hsignals : Signals (opened engine (shorter ++ left) commands) calls t) {rounds : Nat}
    (hrounds : calls.length < rounds) (hleft : left ≠ []) (hused : t.actions = []) :
    ∃ index prompt labels,
      (opened engine shorter commands).run rounds = .error (.missingAction index) ∧
      t.commands[index]? = some (.showChoices prompt labels) ∧
      (t.commands.take index).countP Command.isChoices = shorter.length := by
  obtain ⟨first, m, rest, hfirst, hlast, hwaits, hchosen, hmissing⟩ :=
    hsignals.run_of_shorter hrounds rfl hleft hused
  obtain ⟨prompt, labels, hat, hbefore⟩ :=
    ((h.tallied (shorter ++ left)).signals hfirst).missing hwaits
  have hmused : m.used = shorter.length := by
    rw [hfirst.used_eq, hchosen, opened, Nat.zero_add]
  refine ⟨m.commands.length - 1, prompt, labels, hmissing, ?_, ?_⟩
  · rw [hlast.commands_eq]
    obtain ⟨hindex, -⟩ := List.getElem?_eq_some_iff.1 hat
    exact (List.getElem?_append_left hindex).trans hat
  · rw [hlast.commands_eq, List.take_append_of_le_length (Nat.sub_le _ _), hbefore, hmused]

/-- A case that can be run has just the actions that the story asks for. -/
theorem exact_actions {testCase : TestCase} {report : RunReport}
    (h : runCase language wording files directory testCase = .ok report) :
    ExactActions language wording files directory testCase report := by
  obtain ⟨text, story, engine, commands, htext, hopens⟩ := exists_opens_of_runCase h
  have hrun := runCase_of_opens htext hopens
  rw [hrun, mapError_eq_ok] at h
  obtain ⟨calls, t, hsignals, hlt, hstopped, hused, hreport⟩ := run_eq_ok_iff.1 h
  obtain ⟨hcount, hchoices, hsum⟩ := hopens.counts hsignals hstopped hused
  have hbehind : ∀ {xs ys left : List Nat}, xs ++ left = ys → xs ≠ ys → left ≠ [] := by
    rintro xs ys left rfl hne rfl
    exact hne (List.append_nil xs).symm
  rw [hreport]
  refine ⟨hcount, hchoices, hsum, ?_, ?_⟩
  · rintro other ⟨left, hother⟩ hne
    rw [← hother] at hsignals
    obtain ⟨index, prompt, labels, hmissing, hat, hbefore⟩ :=
      hopens.run_of_shorter hsignals hlt (hbehind hother hne) hused
    refine ⟨index, prompt, labels, ?_, hat, hbefore⟩
    rw [hrun, mapError_eq_error]
    exact ⟨_, hmissing, rfl⟩
  · rintro other ⟨left, hother⟩ hne
    have hlonger := hsignals.run_of_longer hlt hstopped hused (hbehind hother hne.symm)
    rw [hrun, mapError_eq_error, ← hother, List.length_append, ← hcount]
    exact ⟨_, hlonger, rfl⟩

/-- Going around once and then on takes two actions, for the two choices that are shown. -/
theorem exact_actions_of_onceAround :
    runCase .own .own crossroadsFiles "s" onceAround = .ok onceAroundReport ∧
      ExactActions .own .own crossroadsFiles "s" onceAround onceAroundReport :=
  ⟨runCase_onceAround .own, exact_actions (runCase_onceAround .own)⟩

end Case

end BranchingStory
