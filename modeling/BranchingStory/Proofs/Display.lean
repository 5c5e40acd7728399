import BranchingStory.Proofs.Itinerary
import BranchingStory.Proofs.Picture

/-!
# What is displayed

A step either draws the scene and hands playback on, or it prompts the player with one command and
playback waits or ends there (`Story.prompts_perform`). So whatever an engine waits for is what was
displayed last, however many calls were refused or failed since, and a playthrough shows its end
once, after everything else (`prompted_play`).
-/

namespace BranchingStory

open Playback

/-- A command that asks something of the player or tells that the story is over. -/
def Playback.Command.isPrompt : Command → Bool
  | setDialogue _ _ => true
  | showChoices _ _ => true
  | showEnded => true
  | _ => false

namespace Story

variable {story : Story} {scene : Scene} {place : Cursor} {step : Step}

/-- The prompt for a step at which playback waits with a status, or ends. A line is shown with the
name of a character of the story, with the name that the step has if there is no such character, and
without a name if nobody says it. -/
inductive Shows (story : Story) : Status → Step → Command → Prop
  | character {name text : String} {c : Character} (h : story.characters.get? name = some c) :
    Shows story .awaitingAdvance (.dialogue (some name) (some text))
      (.setDialogue (some c.displayName) text)
  | stranger {name text : String} (h : story.characters.get? name = none) :
    Shows story .awaitingAdvance (.dialogue (some name) (some text))
      (.setDialogue (some name) text)
  | nobody (text : String) :
    Shows story .awaitingAdvance (.dialogue none (some text)) (.setDialogue none text)
  | narration (text : String) :
    Shows story .awaitingAdvance (.narration (some text)) (.setDialogue none text)
  | choice (prompt : Option String) {options : List ChoiceOption} (h : options ≠ []) :
    Shows story .awaitingChoice (.choice prompt options)
      (.showChoices prompt (options.map fun o => o.label.getD ""))
  | ending : Shows story .ended .ending .showEnded

/-- How the commands of a step and the move after it belong together. -/
inductive Prompts (story : Story) (step : Step) : List Command → Move → Prop
  | wait {status : Status} {command : Command} (h : story.Shows status step command) :
    Prompts story step [command] (.pause status)
  | pass {commands : List Command} {move : Move}
      (hc : ∀ command ∈ commands, command.isPrompt = false)
      (hm : ∀ status, move ≠ .pause status) : Prompts story step commands move

theorem Shows.eq_showEnded_iff {status : Status} {command : Command}
    (h : story.Shows status step command) : command = .showEnded ↔ status = .ended := by
  cases h <;> simp

/-! ## Steps -/

theorem prompts_skip (scene : Scene) (place : Cursor) (complaint : Complaint) :
    story.Prompts step (Event.commands (scene.skip place complaint).events)
      (scene.skip place complaint).move :=
  .pass (List.forall_mem_nil _) fun _ h => by cases h

theorem prompts_transfer {target : String} :
    story.Prompts step (Event.commands (story.transfer scene place target).events)
      (story.transfer scene place target).move := by
  rw [transfer]
  split
  · exact .pass (List.forall_mem_nil _) fun _ h => by cases h
  · exact .pass (List.forall_mem_nil _) fun _ h => by cases h

theorem prompts_transfer? {target : Option String} :
    story.Prompts step (Event.commands (story.transfer? scene place target).events)
      (story.transfer? scene place target).move := by
  cases target with
  | none => exact .pass (List.forall_mem_nil _) fun _ h => by cases h
  | some target => exact prompts_transfer

theorem prompts_performBackground {name : Option String} :
    story.Prompts step (Event.commands (story.performBackground scene place name).events)
      (story.performBackground scene place name).move := by
  unfold performBackground
  split
  · exact prompts_skip scene place _
  · split
    · exact prompts_skip scene place _
    · exact .pass (List.forall_mem_singleton.2 rfl) fun _ h => by cases h

theorem prompts_enter {name image : String} {position : Position} :
    story.Prompts step (Event.commands (enter scene name image position).events)
      (enter scene name image position).move := by
  rw [enter]
  cases scene.stage.positionOf? name with
  | none => exact .pass (List.forall_mem_singleton.2 rfl) fun _ h => by cases h
  | some before =>
    dsimp only
    split
    · exact .pass (List.forall_mem_singleton.2 rfl) fun _ h => by cases h
    · refine .pass ?_ fun _ h => by cases h
      exact List.forall_mem_cons.2 ⟨rfl, List.forall_mem_singleton.2 rfl⟩

theorem prompts_performAppearance {name pose : Option String} {position : Option Position} :
    story.Prompts step
      (Event.commands (story.performAppearance scene place name pose position).events)
      (story.performAppearance scene place name pose position).move := by
  unfold performAppearance
  split
  · split
    · exact prompts_skip scene place _
    · split
      · exact prompts_skip scene place _
      · exact prompts_enter
  · exact prompts_skip scene place _

theorem prompts_performDisappearance {name : Option String} :
    story.Prompts step (Event.commands (performDisappearance scene place name).events)
      (performDisappearance scene place name).move := by
  unfold performDisappearance
  split
  · exact prompts_skip scene place _
  · split
    · exact .pass (List.forall_mem_nil _) fun _ h => by cases h
    · exact .pass (List.forall_mem_singleton.2 rfl) fun _ h => by cases h

/-- Whoever says a line, complaints about it are no commands. -/
theorem prompts_performDialogue {speaker text : Option String} :
    story.Prompts (.dialogue speaker text)
      (Event.commands (story.performDialogue scene place speaker text).events)
      (story.performDialogue scene place speaker text).move := by
  cases text with
  | none => exact prompts_skip scene place _
  | some text =>
    rw [performDialogue]
    cases speaker with
    | none => exact .wait (.nobody text)
    | some name =>
      rw [speakerName]
      cases hc : story.characters.get? name with
      | none => exact .wait (.stranger hc)
      | some c => exact .wait (.character hc)

theorem prompts_performNarration {text : Option String} :
    story.Prompts (.narration text) (Event.commands (performNarration scene place text).events)
      (performNarration scene place text).move := by
  cases text with
  | none => exact prompts_skip scene place _
  | some text => exact .wait (.narration text)

theorem prompts_performAssignment {key : Option String} {source : Option ValueSource} :
    story.Prompts step (Event.commands (performAssignment scene place key source).events)
      (performAssignment scene place key source).move := by
  unfold performAssignment
  split
  · exact .pass (List.forall_mem_nil _) fun _ h => by cases h
  · split
    · exact .pass (List.forall_mem_nil _) fun _ h => by cases h
    · exact .pass (List.forall_mem_nil _) fun _ h => by cases h
  · exact prompts_skip scene place _

theorem prompts_performBranch {test : Option Test} {target otherwise : Option String} :
    story.Prompts step
      (Event.commands (story.performBranch scene place test target otherwise).events)
      (story.performBranch scene place test target otherwise).move := by
  unfold performBranch
  split
  · exact prompts_skip scene place _
  · split
    · exact .pass (List.forall_mem_nil _) fun _ h => by cases h
    · exact prompts_transfer?
    · split
      · exact prompts_transfer
      · exact .pass (List.forall_mem_nil _) fun _ h => by cases h

theorem prompts_performChoice {prompt : Option String} {options : List ChoiceOption} :
    story.Prompts (.choice prompt options)
      (Event.commands (performChoice scene place prompt options).events)
      (performChoice scene place prompt options).move := by
  rw [performChoice]
  by_cases h : options.isEmpty = true
  · rw [if_pos h]
    exact prompts_skip scene place _
  · rw [if_neg h]
    exact .wait (.choice prompt fun hn => h (List.isEmpty_iff.2 hn))

/-- A step prompts the player and playback waits, or it only draws and playback does not wait. -/
theorem prompts_perform (story : Story) (scene : Scene) (place : Cursor) (step : Step) :
    story.Prompts step (Event.commands (story.perform scene place step).events)
      (story.perform scene place step).move := by
  cases step with
  | background name => exact prompts_performBackground
  | showCharacter name pose position => exact prompts_performAppearance
  | hideCharacter name => exact prompts_performDisappearance
  | dialogue speaker text => exact prompts_performDialogue
  | narration text => exact prompts_performNarration
  | setVariable key source => exact prompts_performAssignment
  | jump target => exact prompts_transfer?
  | branch test target otherwise => exact prompts_performBranch
  | choice prompt options => exact prompts_performChoice
  | ending => exact .wait .ending
  | unrecognized kind => exact prompts_skip scene place _

theorem commands_record (story : Story) (scene : Scene) (place : Cursor) (step : Step) :
    Event.commands (story.record scene place step) =
      Event.commands (story.perform scene place step).events :=
  rfl

theorem exists_shows_of_pause {status : Status}
    (hm : (story.perform scene place step).move = .pause status) :
    ∃ command, Event.commands (story.record scene place step) = [command] ∧
      story.Shows status step command := by
  have hp := story.prompts_perform scene place step
  rw [hm, ← commands_record] at hp
  generalize Event.commands (story.record scene place step) = commands at hp
  cases hp with
  | wait h => exact ⟨_, rfl, h⟩
  | pass _ hn => exact absurd rfl (hn status)

theorem isPrompt_of_mem_record (hm : ∀ status, (story.perform scene place step).move ≠ .pause status)
    {command : Command} (h : command ∈ Event.commands (story.record scene place step)) :
    command.isPrompt = false := by
  have hp := story.prompts_perform scene place step
  rw [← commands_record] at hp
  generalize Event.commands (story.record scene place step) = commands at hp h
  generalize (story.perform scene place step).move = move at hp hm
  cases hp with
  | wait _ => exact absurd rfl (hm _)
  | pass hc _ => exact hc command h

end Story

namespace Playback.Engine

variable {story : Story} {e : Engine} {sent before : List Command}

/-- How the commands of a playthrough agree with what its engine does: the end of the story has not
been shown, or the engine waits at a step, or has ended there, and the prompt for that step was the
last command. -/
inductive Displays (story : Story) (sent : List Command) (e : Engine) : Prop
  | quiet (hs : e.status = .idle ∨ e.status = .halted) (hn : .showEnded ∉ sent)
  | shown {place : Cursor} {step : Step} {command : Command} {earlier : List Command}
      (hc : e.cursor = some place) (hs : story.stepAt? place = some step)
      (hw : story.Shows e.status step command) (hsent : sent = earlier ++ [command])
      (hn : .showEnded ∉ earlier)

theorem Displays.showEnded_notMem (h : Displays story sent e) (hs : e.status ≠ .ended) :
    .showEnded ∉ sent := by
  cases h with
  | quiet _ hn => exact hn
  | @shown place step command earlier _ _ hw hsent hn =>
    subst hsent
    intro hmem
    rcases List.mem_append.1 hmem with hmem | hmem
    · exact hn hmem
    · exact hs (hw.eq_showEnded_iff.1 (List.mem_singleton.1 hmem).symm)

/-- After the commands before, a call has displayed what the engine now waits for. -/
structure Displayed (story : Story) (before : List Command) (o : Outcome) : Prop where
  story_eq : o.engine.story = story
  displays : Displays story (before ++ o.commands) o.engine

theorem showEnded_notMem_record {events : List Event} {scene : Scene} {place : Cursor} {step : Step}
    (h : .showEnded ∉ before ++ Event.commands events)
    (hm : ∀ status, (story.perform scene place step).move ≠ .pause status) :
    .showEnded ∉ before ++ Event.commands (events ++ story.record scene place step) := by
  rw [Event.commands_append, ← List.append_assoc]
  intro hmem
  rcases List.mem_append.1 hmem with hmem | hmem
  · exact h hmem
  · exact absurd (Story.isPrompt_of_mem_record hm hmem) (by simp [Command.isPrompt])

-- As long as a walk goes on, the end has not been shown; only the step at which it pauses prompts.
theorem displayedRule (story : Story) (limit : Nat) (before : List Command) :
    WalkRule story limit (fun events _ _ => .showEnded ∉ before ++ Event.commands events)
      (Displayed story before) where
  tripped h := ⟨rfl, .quiet (.inr rfl) h⟩
  lost h _ := by
    refine ⟨rfl, .quiet (.inr rfl) ?_⟩
    rw [Outcome.commands, Event.commands_concat_of_none _ rfl]
    exact h
  exhausted h _ _ := by
    refine ⟨rfl, .quiet (.inr rfl) ?_⟩
    rw [Outcome.commands, Event.commands_concat_of_none _ rfl]
    exact h
  next h _ hm := showEnded_notMem_record h fun _ hp => by simp [hm] at hp
  goTo h _ hm := showEnded_notMem_record h fun _ hp => by simp [hm] at hp
  pause {events scene place step status} h hs hm := by
    obtain ⟨command, hcommand, hw⟩ := Story.exists_shows_of_pause hm
    refine ⟨rfl, .shown rfl hs hw ?_ h⟩
    rw [Outcome.commands, Event.commands_append, hcommand, List.append_assoc]
  halt h _ hm := by
    refine ⟨rfl, .quiet (.inr rfl) ?_⟩
    exact showEnded_notMem_record h fun _ hp => by simp [hm] at hp
  fail h _ hm := by
    refine ⟨rfl, .quiet (.inr rfl) ?_⟩
    rw [Outcome.commands, Event.commands_concat_of_none _ rfl]
    exact showEnded_notMem_record h fun _ hp => by simp [hm] at hp

/-! ## Calls -/

/-- Nothing is shown before a walk. -/
theorem Departs.commands_eq_nil {c : Call} {events : List Event} {scene : Scene} {place : Cursor}
    (hd : e.Departs c events scene place) : Event.commands events = [] := by
  cases hd <;> rfl

/-- A walk departs only before the end of the story was shown. -/
theorem Departs.showEnded_notMem {c : Call} {events : List Event} {scene : Scene} {place : Cursor}
    (hd : e.Departs c events scene place) (hr : c = .restart → before = [])
    (hp : c ≠ .restart → Displays e.story before e) :
    .showEnded ∉ before ++ Event.commands events := by
  rw [hd.commands_eq_nil, List.append_nil]
  cases hd with
  | restart _ =>
    obtain rfl := hr rfl
    exact List.not_mem_nil
  | start hs _ => exact (hp (by simp)).showEnded_notMem (by simp [hs])
  | advance hs _ => exact (hp (by simp)).showEnded_notMem (by simp [hs])
  | goOn ho _ _ _ => exact (hp (by simp)).showEnded_notMem (by simp [ho.status])
  | leave ho _ _ _ _ => exact (hp (by simp)).showEnded_notMem (by simp [ho.status])

theorem Displays.withVars (h : Displays story sent e) (vars : Variables) :
    Displays story sent { e with scene := { e.scene with vars } } := by
  cases h with
  | quiet hs hn => exact .quiet hs hn
  | shown hc hs hw hsent hn => exact .shown hc hs hw hsent hn

theorem displayed_of_no_commands {o : Outcome} (hs : o.engine.story = story) (hn : o.commands = [])
    (hd : Displays story before o.engine) : Displayed story before o := by
  refine ⟨hs, ?_⟩
  rwa [hn, List.append_nil]

theorem Called.displayed {c : Call} {o : Outcome} (hcalled : e.Called c o)
    (hr : c = .restart → before = []) (hp : c ≠ .restart → Displays e.story before e) :
    Displayed e.story before o := by
  cases hcalled with
  | refused h => exact displayed_of_no_commands rfl rfl (hp h.ne_restart)
  | ignored hsignal _ =>
    exact displayed_of_no_commands rfl rfl (hp (Call.ne_restart_of_signal hsignal))
  | unrestarted _ =>
    obtain rfl := hr rfl
    exact displayed_of_no_commands rfl rfl (.quiet (.inl rfl) List.not_mem_nil)
  | effectFailed ho _ _ =>
    exact displayed_of_no_commands rfl rfl ((hp (by simp)).withVars _)
  | stranded ho _ _ _ _ =>
    have hn := (hp (by simp)).showEnded_notMem (by simp [ho.status])
    exact displayed_of_no_commands rfl rfl (.quiet (.inr rfl) hn)
  | walked hd =>
    exact Story.walk_spec (displayedRule e.story e.limit before) _ (hd.showEnded_notMem hr hp)

/-! ## Options -/

/-- The number of an option that is not there is refused, and nothing else happens. -/
theorem choose_of_length_le {place : Cursor} {options : List ChoiceOption} {index : Nat}
    (ho : e.Offers place options) (hi : options.length ≤ index) :
    e.choose index = e.fail (.optionOutOfRange index options.length (some place)) := by
  obtain ⟨prompt, hstep⟩ := ho.step
  obtain ⟨steps, hr, hs⟩ := Story.stepAt?_eq_some_iff.1 hstep
  have hnone : options[index]? = none := List.getElem?_eq_none hi
  rw [choose, ho.status, ho.cursor]
  simp only [hr, hs, hnone]

theorem length_le_of_out_of_range {place : Cursor} {options : List ChoiceOption} {index : Nat}
    (ho : e.Offers place options) {i count : Nat} {at? : Option Cursor}
    (h : (e.choose index).result = .error (.optionOutOfRange i count at?)) :
    options.length ≤ index := by
  obtain ⟨hrefuses, -⟩ := refuses_of_result (c := Call.choose index) (by simp) h rfl
  cases hrefuses with
  | optionOutOfRange ho' hi =>
    obtain ⟨-, rfl⟩ := ho.unique ho'
    exact hi

end Playback.Engine

/-! ## Recordings -/

namespace Playback.Engine

/-- The commands of a run, from its first call on and whatever is restarted. -/
def recording (e : Engine) (calls : List Call) : List Command :=
  (e.outcomes calls).flatMap Outcome.commands

theorem recording_concat (e : Engine) (calls : List Call) (c : Call) :
    e.recording (calls ++ [c]) = e.recording calls ++ ((e.play calls).call c).commands := by
  induction calls generalizing e with
  | nil => simp [recording, outcomes]
  | cons first rest ih =>
    have h := ih (e.call first).engine
    simp only [recording] at h
    simp only [recording, List.cons_append, outcomes, List.flatMap_cons, h, List.append_assoc]
    rfl

end Playback.Engine

namespace Playback.Playthrough

variable {story : Story} {p : Playthrough}

/-- A playthrough of a story has displayed what its engine waits for. -/
structure Displayed (story : Story) (p : Playthrough) : Prop where
  story_eq : p.engine.story = story
  displays : Engine.Displays story p.commands p.engine

theorem displayed_call (h : Displayed story p) (c : Engine.Call) : Displayed story (p.call c) := by
  obtain ⟨rfl, hd⟩ := h
  by_cases hc : c = .restart
  · subst hc
    have hcall : Engine.Displayed p.engine.story [] (p.engine.call .restart) :=
      (p.engine.called .restart).displayed (fun _ => rfl) fun h => absurd rfl h
    exact ⟨hcall.story_eq, hcall.displays⟩
  · have hcall : Engine.Displayed p.engine.story p.commands (p.engine.call c) :=
      (p.engine.called c).displayed (fun h => absurd h hc) fun _ => hd
    refine ⟨hcall.story_eq, ?_⟩
    rw [commands_call p hc]
    exact hcall.displays

theorem displayed_play (story : Story) (limit : Nat) (calls : List Engine.Call) :
    Displayed story ((opened story limit).play calls) :=
  play_induction (I := Displayed story) (fun _ c h => displayed_call h c)
    ⟨rfl, .quiet (.inl rfl) List.not_mem_nil⟩ calls

/-- A recording ends with the commands of the playthrough that is under way. -/
theorem exists_recording_eq (story : Story) (limit : Nat) (calls : List Engine.Call) :
    ∃ earlier, (Engine.idle story limit).recording calls =
      earlier ++ ((opened story limit).play calls).commands := by
  induction calls using List.reverseRecOn with
  | nil => exact ⟨[], rfl⟩
  | append_singleton calls c ih =>
    obtain ⟨earlier, h⟩ := ih
    have hplay : (opened story limit).play (calls ++ [c]) =
        ((opened story limit).play calls).call c := by simp [play]
    have hengine : ((opened story limit).play calls).engine =
        (Engine.idle story limit).play calls := engine_play _ calls
    rw [Engine.recording_concat, hplay]
    by_cases hc : c = .restart
    · subst hc
      rw [← hengine]
      exact ⟨(Engine.idle story limit).recording calls, rfl⟩
    · refine ⟨earlier, ?_⟩
      rw [commands_call _ hc, h, hengine, List.append_assoc]

/-- What a playthrough and a recording of all commands tell about the engine. -/
structure Prompted (story : Story) (p : Playthrough) (recording : List Command) : Prop where
  story_eq : p.engine.story = story
  prompt : p.engine.status = .awaitingAdvance ∨ p.engine.status = .awaitingChoice ∨
      p.engine.status = .ended →
    ∃ step command, p.engine.step? = some step ∧ recording.getLast? = some command ∧
      story.Shows p.engine.status step command
  outOfRange : p.engine.status = .awaitingChoice → ∀ prompt labels,
    recording.getLast? = some (.showChoices prompt labels) → ∀ index,
      (∃ i count place, (p.engine.choose index).result =
        .error (.optionOutOfRange i count place)) ↔ labels.length ≤ index
  unapplied : ∀ index i count place,
    (p.engine.choose index).result = .error (.optionOutOfRange i count place) →
      (p.engine.choose index).engine = p.engine ∧ (p.engine.choose index).events = []
  ended : p.engine.status = .ended →
    ∃ earlier, p.commands = earlier ++ [.showEnded] ∧ .showEnded ∉ earlier
  notEnded : p.engine.status ≠ .ended → .showEnded ∉ p.commands
  final : p.engine.status = .ended ∨ p.engine.status = .halted → ∀ c, c ≠ .restart →
    (p.call c).engine = p.engine ∧ (p.call c).commands = p.commands

theorem Displayed.exists_shows (h : Displayed story p)
    (hs : p.engine.status ≠ .idle ∧ p.engine.status ≠ .halted) :
    ∃ step command earlier, p.engine.step? = some step ∧ p.commands = earlier ++ [command] ∧
      story.Shows p.engine.status step command ∧ .showEnded ∉ earlier := by
  obtain ⟨rfl, hd⟩ := h
  cases hd with
  | quiet hq _ =>
    rcases hq with hq | hq
    · exact absurd hq hs.1
    · exact absurd hq hs.2
  | @shown place step command earlier hc hstep hw hsent hn =>
    have hat : p.engine.step? = some step := by
      rw [Engine.step?, hc]
      exact hstep
    exact ⟨step, command, earlier, hat, hsent, hw, hn⟩

/-- The labels of a choice that is shown are those of its options. -/
theorem exists_offers {e : Engine} {step : Step} {command : Command}
    (hs : e.status = .awaitingChoice) (hstep : e.step? = some step)
    (hw : story.Shows e.status step command) :
    ∃ prompt place options, e.Offers place options ∧
      command = .showChoices prompt (options.map fun o => o.label.getD "") := by
  rw [hs] at hw
  cases hw with
  | @choice prompt options _ =>
    obtain ⟨place, hc, hat⟩ := Option.bind_eq_some_iff.1 hstep
    exact ⟨prompt, place, options, ⟨hs, hc, prompt, hat⟩, rfl⟩

theorem call_of_over {c : Engine.Call} (hs : p.engine.status = .ended ∨ p.engine.status = .halted)
    (hc : c ≠ .restart) : (p.call c).engine = p.engine ∧ (p.call c).commands = p.commands := by
  have hf : p.engine.status.isFinished = true := by
    rcases hs with hs | hs <;> rw [hs] <;> rfl
  have hsame : (p.engine.call c).engine = p.engine ∧ (p.engine.call c).commands = [] := by
    cases c with
    | start =>
      have hidle : p.engine.status ≠ .idle := by
        rcases hs with hs | hs <;> simp [hs]
      show p.engine.start.engine = p.engine ∧ p.engine.start.commands = []
      rw [Engine.start_of_started hidle]
      exact ⟨rfl, rfl⟩
    | advance =>
      rw [Engine.call_of_finished rfl hf]
      exact ⟨rfl, rfl⟩
    | choose index =>
      rw [Engine.call_of_finished rfl hf]
      exact ⟨rfl, rfl⟩
    | restart => exact absurd rfl hc
  refine ⟨hsame.1, ?_⟩
  rw [commands_call p hc, hsame.2, List.append_nil]

/-- Whatever has been called, and whatever the calls returned, the last command of all shows what
the engine waits for, options are refused by their number exactly if no label was shown for it, and
the end of the story is shown once and last by a playthrough that has come to it and by no other. -/
theorem prompted_play (story : Story) (limit : Nat) (calls : List Engine.Call) :
    Prompted story ((opened story limit).play calls)
      ((Engine.idle story limit).recording calls) := by
  have h := displayed_play story limit calls
  obtain ⟨before, hrecording⟩ := exists_recording_eq story limit calls
  generalize (opened story limit).play calls = p at h hrecording
  rw [hrecording]
  have hlast : ∀ {command : Command} {earlier : List Command},
      p.commands = earlier ++ [command] → (before ++ p.commands).getLast? = some command := by
    intro command earlier hsent
    rw [hsent, ← List.append_assoc, List.getLast?_concat]
  refine ⟨h.story_eq, ?_, ?_, ?_, ?_, h.displays.showEnded_notMem,
    fun hs c hc => call_of_over hs hc⟩
  · intro hs
    have hwaits : p.engine.status ≠ .idle ∧ p.engine.status ≠ .halted := by
      rcases hs with hs | hs | hs <;> simp [hs]
    obtain ⟨step, command, earlier, hstep, hsent, hw, -⟩ := h.exists_shows hwaits
    exact ⟨step, command, hstep, hlast hsent, hw⟩
  · intro hs prompt labels hshown index
    obtain ⟨step, command, earlier, hstep, hsent, hw, -⟩ := h.exists_shows (by simp [hs])
    obtain ⟨prompt', place, options, ho, hcommand⟩ := exists_offers hs hstep hw
    have hsame := (hlast hsent).symm.trans hshown
    rw [hcommand] at hsame
    obtain ⟨-, rfl⟩ := Command.showChoices.inj (Option.some.inj hsame)
    rw [List.length_map]
    constructor
    · rintro ⟨i, count, place', hresult⟩
      exact Engine.length_le_of_out_of_range ho hresult
    · intro hi
      exact ⟨_, _, _, by rw [Engine.choose_of_length_le ho hi]; rfl⟩
  · intro index i count place hresult
    obtain ⟨-, heq⟩ := Engine.refuses_of_result (c := Engine.Call.choose index) (by simp) hresult rfl
    have hchoose : p.engine.choose index = p.engine.fail _ := heq
    rw [hchoose]
    exact ⟨rfl, rfl⟩
  · intro hs
    obtain ⟨step, command, earlier, -, hsent, hw, hn⟩ := h.exists_shows (by simp [hs])
    rw [hw.eq_showEnded_iff.2 hs] at hsent
    exact ⟨earlier, hsent, hn⟩

end Playback.Playthrough

end BranchingStory
