import BranchingStory.Proofs.Display

/-!
# Commands and the steps that send them

Whoever draws a story sees nothing but what the story declares: every command is sent by the step
that is being executed, and the step warrants it (`Story.Warrants`). Most commands can be judged by
the step and the story alone. Clearing a position is different, since it is right only for a step
that is about the character who was shown there last, so commands are judged together with those
sent before them, and the stage has to remember who was shown where (`Stage.Remembered`). Restarts
empty the stage in silence, which forgets characters and never invents one, so the memory reaches
over whole runs (`warranted_play`).
-/

namespace BranchingStory

open Playback

namespace Playback

/-- The character that a command shows at a position. -/
def Command.shownAt? (p : Position) : Command → Option String
  | setSprite position name _ => if position = p then some name else none
  | _ => none

/-- The character that was shown last at a position. -/
def Command.lastShownAt? (p : Position) (sent : List Command) : Option String :=
  (sent.filterMap (shownAt? p)).getLast?

/-- Everybody on a stage was the last one to be shown at the position. -/
def Stage.Remembered (stage : Stage) (sent : List Command) : Prop :=
  ∀ p name, stage.get? p = some name → Command.lastShownAt? p sent = some name

namespace Command

variable {sent : List Command} {command : Command} {p : Position}

theorem lastShownAt?_concat_of_eq {name : String} (h : command.shownAt? p = some name) :
    lastShownAt? p (sent ++ [command]) = some name := by
  simp [lastShownAt?, h]

theorem lastShownAt?_concat_of_none (h : command.shownAt? p = none) :
    lastShownAt? p (sent ++ [command]) = lastShownAt? p sent := by
  simp [lastShownAt?, h]

end Command

namespace Stage

variable {stage : Stage} {sent : List Command}

theorem remembered_empty (sent : List Command) : empty.Remembered sent :=
  fun p name h => absurd h (by simp)

theorem Remembered.after (h : stage.Remembered sent) (command : Command) :
    (stage.after command).Remembered (sent ++ [command]) := by
  intro p name hp
  cases command with
  | setSprite position other image =>
    rcases get?_of_set_some hp with ⟨rfl, rfl⟩ | ⟨hne, hold⟩
    · exact Command.lastShownAt?_concat_of_eq (if_pos rfl)
    · have hn : (Command.setSprite position other image).shownAt? p = none := if_neg hne
      rw [Command.lastShownAt?_concat_of_none hn]
      exact h p name hold
  | clearSprite position =>
    rw [Command.lastShownAt?_concat_of_none rfl]
    exact h p name (get?_of_set_none hp).2
  | _ =>
    rw [Command.lastShownAt?_concat_of_none rfl]
    exact h p name hp

end Stage

end Playback

namespace Story

variable {story : Story} {scene : Scene} {place : Cursor} {step : Step} {sent : List Command}

theorem Draws.remembered {stage final : Stage} {commands : List Command}
    (h : story.Draws stage commands final) (hr : stage.Remembered sent) :
    final.Remembered (sent ++ commands) := by
  induction h generalizing sent with
  | nil stage => rwa [List.append_nil]
  | @cons stage final command commands _ _ ih =>
    rw [← List.singleton_append, ← List.append_assoc]
    exact ih (hr.after command)

/-- A step warrants a command that is sent after others. It may show the place that it names, or its
character in a pose that the character has; it may clear the position where its character was shown
last; and it may prompt the player for itself. -/
inductive Warrants (story : Story) (sent : List Command) : Step → Command → Prop
  | background {name image : String} (h : story.places.get? name = some image) :
    Warrants story sent (.background (some name)) (.setBackground name image)
  | appearance {name pose image : String} {position : Position} {c : Character}
      (hc : story.characters.get? name = some c) (hp : c.poses.get? pose = some image) :
    Warrants story sent (.showCharacter (some name) (some pose) (some position))
      (.setSprite position name image)
  | departure {name : String} {pose : Option String} {goal : Option Position} {position : Position}
      (h : Command.lastShownAt? position sent = some name) :
    Warrants story sent (.showCharacter (some name) pose goal) (.clearSprite position)
  | disappearance {name : String} {position : Position}
      (h : Command.lastShownAt? position sent = some name) :
    Warrants story sent (.hideCharacter (some name)) (.clearSprite position)
  | prompt {status : Status} {step : Step} {command : Command}
      (h : story.Shows status step command) : Warrants story sent step command

/-- Events that a step tells one after the other: it warrants every command among them, after those
sent before. -/
inductive Sends (story : Story) (step : Step) : List Command → List Event → Prop
  | nil (sent : List Command) : Sends story step sent []
  | quiet {sent : List Command} {event : Event} {rest : List Event} (hn : event.command? = none)
    (hrest : Sends story step sent rest) : Sends story step sent (event :: rest)
  | send {sent : List Command} {command : Command} {rest : List Event}
    (h : story.Warrants sent step command) (hrest : Sends story step (sent ++ [command]) rest) :
    Sends story step sent (.displayed command :: rest)

namespace Sends

/-- An event that is no command. -/
theorem silent {event : Event} (hn : event.command? = none) : story.Sends step sent [event] :=
  .quiet hn (.nil sent)

/-- A single command. -/
theorem one {command : Command} (h : story.Warrants sent step command) :
    story.Sends step sent [.displayed command] :=
  .send h (.nil _)

end Sends

/-! ## Steps -/

theorem sends_performBackground {name : Option String} :
    story.Sends (.background name) sent (story.performBackground scene place name).events := by
  cases name with
  | none => exact .silent rfl
  | some name =>
    rw [performBackground]
    cases hp : story.places.get? name with
    | none => exact .silent rfl
    | some image => exact .one (.background hp)

/-- A character who stands elsewhere was shown there last, so that position may be cleared. -/
theorem sends_enter (hr : scene.stage.Remembered sent) {name pose image : String}
    {position : Position} {c : Character} (hc : story.characters.get? name = some c)
    (hp : c.poses.get? pose = some image) :
    story.Sends (.showCharacter (some name) (some pose) (some position)) sent
      (enter scene name image position).events := by
  rw [enter]
  cases hbefore : scene.stage.positionOf? name with
  | none => exact .one (.appearance hc hp)
  | some before =>
    dsimp only
    split
    · exact .one (.appearance hc hp)
    · have hlast := hr before name (Stage.get?_of_positionOf? hbefore)
      exact .send (.departure hlast) (.one (.appearance hc hp))

theorem sends_performAppearance (hr : scene.stage.Remembered sent) {name pose : Option String}
    {position : Option Position} :
    story.Sends (.showCharacter name pose position) sent
      (story.performAppearance scene place name pose position).events := by
  unfold performAppearance
  split
  · split
    · exact .silent rfl
    · next hc =>
      split
      · exact .silent rfl
      · next hp => exact sends_enter hr hc hp
  · exact .silent rfl

theorem sends_performDisappearance (hr : scene.stage.Remembered sent) {name : Option String} :
    story.Sends (.hideCharacter name) sent (performDisappearance scene place name).events := by
  cases name with
  | none => exact .silent rfl
  | some name =>
    rw [performDisappearance]
    cases hp : scene.stage.positionOf? name with
    | none => exact .silent rfl
    | some position =>
      exact .one (.disappearance (hr position name (Stage.get?_of_positionOf? hp)))

theorem sends_performDialogue {speaker text : Option String} :
    story.Sends (.dialogue speaker text) sent
      (story.performDialogue scene place speaker text).events := by
  cases text with
  | none => exact .silent rfl
  | some text =>
    rw [performDialogue]
    cases speaker with
    | none => exact .quiet rfl (.one (.prompt (.nobody text)))
    | some name =>
      rw [speakerName]
      cases hc : story.characters.get? name with
      | none => exact .quiet rfl (.one (.prompt (.stranger hc)))
      | some c => exact .one (.prompt (.character hc))

theorem sends_performNarration {text : Option String} :
    story.Sends (.narration text) sent (performNarration scene place text).events := by
  cases text with
  | none => exact .silent rfl
  | some text => exact .one (.prompt (.narration text))

theorem sends_performAssignment {key : Option String} {source : Option ValueSource} :
    story.Sends step sent (performAssignment scene place key source).events := by
  unfold performAssignment
  split
  · exact .silent rfl
  · split
    · exact .silent rfl
    · exact .nil sent
  · exact .silent rfl

theorem sends_transfer {target : String} :
    story.Sends step sent (story.transfer scene place target).events := by
  rw [transfer]
  split <;> exact .silent rfl

theorem sends_transfer? {target : Option String} :
    story.Sends step sent (story.transfer? scene place target).events := by
  cases target with
  | none => exact .silent rfl
  | some target => exact sends_transfer

theorem sends_performBranch {test : Option Test} {target otherwise : Option String} :
    story.Sends step sent (story.performBranch scene place test target otherwise).events := by
  unfold performBranch
  split
  · exact .silent rfl
  · split
    · exact .nil sent
    · exact sends_transfer?
    · split
      · exact sends_transfer
      · exact .nil sent

theorem sends_performChoice {prompt : Option String} {options : List ChoiceOption} :
    story.Sends (.choice prompt options) sent
      (performChoice scene place prompt options).events := by
  rw [performChoice]
  by_cases h : options.isEmpty = true
  · rw [if_pos h]
    exact .silent rfl
  · rw [if_neg h]
    exact .one (.prompt (.choice prompt fun hn => h (List.isEmpty_iff.2 hn)))

/-- A step warrants whatever it sends. -/
theorem sends_perform (hr : scene.stage.Remembered sent) (place : Cursor) (step : Step) :
    story.Sends step sent (story.perform scene place step).events := by
  cases step with
  | background name => exact sends_performBackground
  | showCharacter name pose position => exact sends_performAppearance hr
  | hideCharacter name => exact sends_performDisappearance hr
  | dialogue speaker text => exact sends_performDialogue
  | narration text => exact sends_performNarration
  | setVariable key source => exact sends_performAssignment
  | jump target => exact sends_transfer?
  | branch test target otherwise => exact sends_performBranch
  | choice prompt options => exact sends_performChoice
  | ending => exact .one (.prompt .ending)
  | unrecognized kind => exact .silent rfl

/-! ## Journals -/

/-- Every command in a journal is sent by the step that is being executed, the last stop before the
command; that step stands in a node of the story, and it warrants the command. -/
def Warranted (story : Story) (events : List Event) : Prop :=
  ∀ before command after, events = before ++ .displayed command :: after →
    ∃ place step vars, (Event.stops before).getLast? = some (.step place step vars) ∧
      story.stepAt? place = some step ∧ story.Warrants (Event.commands before) step command

namespace Warranted

variable {events more : List Event} {vars : Variables}

theorem nil (story : Story) : story.Warranted [] :=
  fun before command after h => absurd h (by simp)

/-- Of a longer journal, a command is either an earlier one or the last entry. -/
theorem concat {event : Event} (h : story.Warranted events)
    (hlast : ∀ command, event = .displayed command → ∃ place step vars,
      (Event.stops events).getLast? = some (.step place step vars) ∧
        story.stepAt? place = some step ∧ story.Warrants (Event.commands events) step command) :
    story.Warranted (events ++ [event]) := by
  intro before command after heq
  rcases List.eq_nil_or_concat after with rfl | ⟨earlier, last, rfl⟩
  · obtain ⟨rfl, hevent⟩ := List.append_inj' heq rfl
    exact hlast command (List.singleton_inj.1 hevent)
  · rw [List.concat_eq_append, ← List.cons_append, ← List.append_assoc] at heq
    exact h before command earlier (List.append_inj' heq rfl).1

theorem concat_of_none {event : Event} (h : story.Warranted events)
    (hn : event.command? = none) : story.Warranted (events ++ [event]) := by
  refine h.concat fun command heq => ?_
  rw [heq] at hn
  exact absurd hn (by simp [Event.command?])

theorem append_of_no_commands (h : story.Warranted events)
    (hn : ∀ event ∈ more, event.command? = none) : story.Warranted (events ++ more) := by
  induction more generalizing events with
  | nil => rwa [List.append_nil]
  | cons event rest ih =>
    obtain ⟨hevent, hrest⟩ := List.forall_mem_cons.1 hn
    rw [← List.singleton_append, ← List.append_assoc]
    exact ih (h.concat_of_none hevent) hrest

/-- What the step at work sends can be added. -/
theorem append_of_sends (h : story.Warranted events)
    (hat : (Event.stops events).getLast? = some (.step place step vars))
    (hs : story.stepAt? place = some step) (hsends : story.Sends step (Event.commands events) more)
    (hstops : ∀ event ∈ more, event.stop? = none) : story.Warranted (events ++ more) := by
  generalize hsent : Event.commands events = sent at hsends
  induction hsends generalizing events with
  | nil sent => rwa [List.append_nil]
  | @quiet sent event rest hn _ ih =>
    obtain ⟨hevent, hrest⟩ := List.forall_mem_cons.1 hstops
    rw [← List.singleton_append, ← List.append_assoc]
    refine ih (h.concat_of_none hn) ?_ hrest ?_
    · rwa [Event.stops_concat_of_none _ hevent]
    · rwa [Event.commands_concat_of_none _ hn]
  | @send sent command rest hw _ ih =>
    obtain ⟨hevent, hrest⟩ := List.forall_mem_cons.1 hstops
    rw [← List.singleton_append, ← List.append_assoc]
    refine ih (h.concat ?_) ?_ hrest ?_
    · intro other heq
      obtain rfl := Event.displayed.inj heq
      exact ⟨place, step, vars, hat, hs, hsent ▸ hw⟩
    · rwa [Event.stops_concat_of_none _ hevent]
    · rw [Event.commands_append, hsent]
      rfl

end Warranted

/-- All commands in a journal are warranted, and the stage remembers who was shown. -/
structure Accounted (story : Story) (events : List Event) (stage : Stage) : Prop where
  warranted : story.Warranted events
  cast : story.Cast stage
  remembered : stage.Remembered (Event.commands events)

namespace Accounted

variable {events more : List Event} {stage : Stage}

theorem append_of_no_commands (h : story.Accounted events stage)
    (hn : ∀ event ∈ more, event.command? = none) : story.Accounted (events ++ more) stage := by
  refine ⟨h.warranted.append_of_no_commands hn, h.cast, ?_⟩
  have hnil : Event.commands more = [] := List.filterMap_eq_nil_iff.2 hn
  rw [Event.commands_append, hnil, List.append_nil]
  exact h.remembered

theorem concat_of_none (h : story.Accounted events stage) {event : Event}
    (hn : event.command? = none) : story.Accounted (events ++ [event]) stage :=
  h.append_of_no_commands (List.forall_mem_singleton.2 hn)

/-- Nobody is on the stage, so nothing has to be remembered. -/
theorem emptied (h : story.Accounted events stage) : story.Accounted events Stage.empty :=
  ⟨h.warranted, story.cast_empty, Stage.remembered_empty _⟩

theorem record (h : story.Accounted events scene.stage) (hs : story.stepAt? place = some step) :
    story.Accounted (events ++ story.record scene place step)
      (story.perform scene place step).scene.stage := by
  have hdraws := story.draws_perform h.cast place step
  have hstep : story.Warranted (events ++ [.executing place step scene.vars]) :=
    h.warranted.concat_of_none rfl
  have hat : (Event.stops (events ++ [.executing place step scene.vars])).getLast? =
      some (.step place step scene.vars) := by
    rw [Event.stops_append]
    exact List.getLast?_concat
  have hsends : story.Sends step (Event.commands (events ++ [.executing place step scene.vars]))
      (story.perform scene place step).events := by
    rw [Event.commands_concat_of_none _ rfl]
    exact sends_perform h.remembered place step
  refine ⟨?_, hdraws.cast h.cast, ?_⟩
  · rw [Story.record, ← List.singleton_append, ← List.append_assoc]
    have hstops : ∀ event ∈ (story.perform scene place step).events, event.stop? = none :=
      fun _ he => stop?_of_tells (tells_of_mem_perform he)
    exact hstep.append_of_sends hat hs hsends hstops
  · rw [Event.commands_append]
    exact hdraws.remembered h.remembered

end Accounted

end Story

namespace Playback.Engine

variable {e : Engine} {before : List Event}

/-- After a journal, a call for a story has sent nothing but what is warranted. -/
structure AccountedAfter (story : Story) (before : List Event) (o : Outcome) : Prop where
  story_eq : o.engine.story = story
  accounted : story.Accounted (before ++ o.events) o.engine.scene.stage

theorem accountedRule (story : Story) (limit : Nat) (before : List Event) :
    WalkRule story limit (fun events scene _ => story.Accounted (before ++ events) scene.stage)
      (AccountedAfter story before) where
  tripped h := ⟨rfl, h⟩
  lost h _ := ⟨rfl, List.append_assoc .. ▸ h.concat_of_none rfl⟩
  exhausted h _ _ := ⟨rfl, List.append_assoc .. ▸ h.concat_of_none rfl⟩
  next h hs _ := List.append_assoc .. ▸ h.record hs
  goTo h hs _ := List.append_assoc .. ▸ h.record hs
  pause h hs _ := ⟨rfl, List.append_assoc .. ▸ h.record hs⟩
  halt h hs _ := ⟨rfl, List.append_assoc .. ▸ h.record hs⟩
  fail h hs _ := by
    refine ⟨rfl, ?_⟩
    rw [← List.append_assoc, ← List.append_assoc]
    exact (h.record hs).concat_of_none rfl

/-! ## Calls -/

/-- A walk departs from the stage, or from an empty one. -/
theorem Departs.accounted {c : Call} {events : List Event} {scene : Scene} {place : Cursor}
    (hd : e.Departs c events scene place) (h : e.story.Accounted before e.scene.stage) :
    e.story.Accounted (before ++ events) scene.stage := by
  have hn : ∀ event ∈ events, event.command? = none :=
    List.filterMap_eq_nil_iff.1 hd.commands_eq_nil
  cases hd with
  | restart _ => exact h.emptied.append_of_no_commands hn
  | start _ _ | advance _ _ | goOn _ _ _ _ | leave _ _ _ _ _ => exact h.append_of_no_commands hn

theorem Called.accounted {c : Call} {o : Outcome} (hcalled : e.Called c o)
    (h : e.story.Accounted before e.scene.stage) : AccountedAfter e.story before o := by
  cases hcalled with
  | refused _ | effectFailed _ _ _ => exact ⟨rfl, h.append_of_no_commands (List.forall_mem_nil _)⟩
  | ignored _ _ => exact ⟨rfl, h.concat_of_none rfl⟩
  | unrestarted _ => exact ⟨rfl, h.emptied.concat_of_none rfl⟩
  | stranded _ _ _ _ _ =>
    refine ⟨rfl, h.append_of_no_commands ?_⟩
    exact List.forall_mem_cons.2 ⟨rfl, List.forall_mem_singleton.2 rfl⟩
  | walked hd => exact Story.walk_spec (accountedRule e.story e.limit before) _ (hd.accounted h)

/-! ## Runs -/

/-- The journal of a run, from its first call on and whatever is restarted. -/
def journal (e : Engine) (calls : List Call) : List Event :=
  (e.outcomes calls).flatMap Outcome.events

theorem journal_concat (e : Engine) (calls : List Call) (c : Call) :
    e.journal (calls ++ [c]) = e.journal calls ++ ((e.play calls).call c).events := by
  simp [journal, outcomes_concat]

/-- Whatever is called, and whatever is wrong with the story, every command that is sent during a
run is warranted by the step that is being executed. -/
theorem warranted_play (story : Story) (limit : Nat) (calls : List Call) :
    story.Warranted ((idle story limit).journal calls) := by
  have h : ((idle story limit).play calls).story = story ∧
      story.Accounted ((idle story limit).journal calls)
        ((idle story limit).play calls).scene.stage := by
    induction calls using List.reverseRecOn with
    | nil => exact ⟨rfl, .nil story, story.cast_empty, Stage.remembered_empty _⟩
    | append_singleton calls c ih =>
      obtain ⟨hstory, haccounted⟩ := ih
      have hcalled := ((idle story limit).play calls).called c
      rw [play_concat, journal_concat]
      generalize (idle story limit).play calls = e at hstory haccounted hcalled
      subst hstory
      obtain ⟨hsame, hafter⟩ := hcalled.accounted haccounted
      exact ⟨hsame, hafter⟩
  exact h.2.warranted

end Playback.Engine

end BranchingStory
