import BranchingStory.Proofs.Calls
import BranchingStory.Proofs.Perform

/-!
# The picture of the stage

A viewer sees of the stage what the commands have drawn. Each command suits the stage that is drawn
before it (`Story.Suits`): only a position where somebody stands is cleared, and nobody is shown who
still stands elsewhere. Steps send only such commands, and leave behind the stage that these draw
(`Story.draws_perform`). So within a playthrough the picture is the stage, whatever was called
(`pictured_play`).
-/

namespace BranchingStory

open Playback

namespace Playback

/-- The position on the stage that a command changes, if it changes one. -/
def Command.position? : Command → Option Position
  | setSprite position _ _ => some position
  | clearSprite position => some position
  | _ => none

theorem Stage.after_of_position?_eq_none (stage : Stage) {command : Command}
    (h : command.position? = none) : stage.after command = stage := by
  cases command with
  | setSprite position name image => exact absurd h (by simp [Command.position?])
  | clearSprite position => exact absurd h (by simp [Command.position?])
  | _ => rfl

theorem Event.commands_append (first second : List Event) :
    commands (first ++ second) = commands first ++ commands second :=
  List.filterMap_append

theorem Event.commands_concat_of_none (events : List Event) {event : Event}
    (h : event.command? = none) : commands (events ++ [event]) = commands events := by
  rw [commands_append, commands, commands, List.filterMap_cons_none h, List.filterMap_nil,
    List.append_nil]

end Playback

namespace Story

variable {story : Story} {stage final : Stage} {scene : Scene} {place : Cursor}
  {command : Command} {commands : List Command}

/-- Only characters of the story are on a stage, each of them at one position. -/
structure Cast (story : Story) (stage : Stage) : Prop where
  known : ∀ p name, stage.get? p = some name → ∃ c, story.characters.get? name = some c
  once : ∀ p q name, stage.get? p = some name → stage.get? q = some name → p = q

/-- A command suits the stage before it: it shows a character of the story who does not stand
elsewhere, clears a position where somebody stands, or does not change the stage. -/
inductive Suits (story : Story) (stage : Stage) : Command → Prop
  | set {position : Position} {name image : String} {c : Character}
    (hc : story.characters.get? name = some c)
    (h : ∀ p, stage.get? p = some name → p = position) :
    Suits story stage (.setSprite position name image)
  | clear {position : Position} {name : String} (h : stage.get? position = some name) :
    Suits story stage (.clearSprite position)
  | other {command : Command} (h : command.position? = none) : Suits story stage command

/-- Commands, each of which suits the stage before it, draw a stage on another one. -/
inductive Draws (story : Story) : Stage → List Command → Stage → Prop
  | nil (stage : Stage) : Draws story stage [] stage
  | cons {stage final : Stage} {command : Command} {commands : List Command}
    (h : story.Suits stage command) (hrest : Draws story (stage.after command) commands final) :
    Draws story stage (command :: commands) final

theorem cast_empty (story : Story) : story.Cast Stage.empty where
  known p name h := absurd h (by simp)
  once p q name h := absurd h (by simp)

theorem Cast.set {position : Position} {name : String} {c : Character} (h : story.Cast stage)
    (hc : story.characters.get? name = some c)
    (hn : ∀ p, stage.get? p = some name → p = position) :
    story.Cast (stage.set position (some name)) := by
  refine ⟨?_, ?_⟩
  · intro p other hp
    rcases Stage.get?_of_set_some hp with ⟨-, rfl⟩ | ⟨-, hold⟩
    · exact ⟨c, hc⟩
    · exact h.known p other hold
  · -- Two positions of one character: both are new, both are old, or `hn` says that the old one is
    -- the new one.
    intro p q other hp hq
    rcases Stage.get?_of_set_some hp with ⟨rfl, rfl⟩ | ⟨-, holdp⟩
    · rcases Stage.get?_of_set_some hq with ⟨rfl, -⟩ | ⟨-, holdq⟩
      · rfl
      · exact (hn q holdq).symm
    · rcases Stage.get?_of_set_some hq with ⟨rfl, rfl⟩ | ⟨-, holdq⟩
      · exact hn p holdp
      · exact h.once p q other holdp holdq

theorem Cast.clear (h : story.Cast stage) (position : Position) :
    story.Cast (stage.set position none) where
  known p name hp := h.known p name (Stage.get?_of_set_none hp).2
  once p q name hp hq := h.once p q name (Stage.get?_of_set_none hp).2 (Stage.get?_of_set_none hq).2

theorem Cast.after (h : story.Cast stage) (hs : story.Suits stage command) :
    story.Cast (stage.after command) := by
  cases hs with
  | set hc hn => exact h.set hc hn
  | clear _ => exact h.clear _
  | other hn =>
    rw [Stage.after_of_position?_eq_none stage hn]
    exact h

namespace Draws

theorem append {middle : Stage} {more : List Command} (h : story.Draws stage commands middle)
    (hmore : story.Draws middle more final) : story.Draws stage (commands ++ more) final := by
  induction h with
  | nil stage => exact hmore
  | cons hs _ ih => exact .cons hs (ih hmore)

theorem one (h : story.Suits stage command) :
    story.Draws stage [command] (stage.after command) :=
  .cons h (.nil _)

/-- The stage that is drawn is the picture that the commands leave. -/
theorem foldl_eq (h : story.Draws stage commands final) :
    commands.foldl Stage.after stage = final := by
  induction h with
  | nil stage => rfl
  | cons _ _ ih => exact ih

theorem cast (h : story.Draws stage commands final) (hc : story.Cast stage) :
    story.Cast final := by
  induction h with
  | nil stage => exact hc
  | cons hs _ ih => exact ih (hc.after hs)

/-- A command is sent to a picture that it suits. -/
theorem suits {before rest : List Command}
    (h : story.Draws stage (before ++ command :: rest) final) :
    story.Suits (before.foldl Stage.after stage) command := by
  induction before generalizing stage with
  | nil =>
    cases h with
    | cons hs _ => exact hs
  | cons first before ih =>
    cases h with
    | cons _ hrest => exact ih hrest

end Draws

/-! ## Steps -/

theorem draws_enter {name image : String} {position : Position} {c : Character}
    (h : story.Cast scene.stage) (hc : story.characters.get? name = some c) :
    story.Draws scene.stage (Event.commands (enter scene name image position).events)
      (enter scene name image position).scene.stage := by
  rw [enter]
  cases hp : scene.stage.positionOf? name with
  | none => exact .one (.set hc fun p hget => absurd hget (Stage.get?_ne_of_positionOf? hp p))
  | some before =>
    have hbefore := Stage.get?_of_positionOf? hp
    dsimp only
    split
    · next heq =>
      subst heq
      exact .one (.set hc fun p hget => h.once p before name hget hbefore)
    · refine .cons (.clear hbefore) (.one (.set hc fun p hget => ?_))
      obtain ⟨hne, hget⟩ := Stage.get?_of_set_none hget
      exact absurd (h.once before p name hbefore hget) hne

theorem draws_performAppearance {name pose : Option String} {position : Option Position}
    (h : story.Cast scene.stage) :
    story.Draws scene.stage
      (Event.commands (story.performAppearance scene place name pose position).events)
      (story.performAppearance scene place name pose position).scene.stage := by
  unfold performAppearance
  split
  · split
    · exact .nil _
    · next hc =>
      split
      · exact .nil _
      · exact draws_enter h hc
  · exact .nil _

theorem draws_performDisappearance {name : Option String} :
    story.Draws scene.stage (Event.commands (performDisappearance scene place name).events)
      (performDisappearance scene place name).scene.stage := by
  cases name with
  | none => exact .nil _
  | some name =>
    rw [performDisappearance]
    split
    · exact .nil _
    · next hp => exact .one (.clear (Stage.get?_of_positionOf? hp))

theorem draws_performBackground {name : Option String} :
    story.Draws scene.stage (Event.commands (story.performBackground scene place name).events)
      (story.performBackground scene place name).scene.stage := by
  unfold performBackground
  split
  · exact .nil _
  · split
    · exact .nil _
    · exact .one (.other rfl)

theorem draws_performDialogue {speaker text : Option String} :
    story.Draws scene.stage (Event.commands (story.performDialogue scene place speaker text).events)
      (story.performDialogue scene place speaker text).scene.stage := by
  cases text with
  | none => exact .nil _
  | some text =>
    rw [performDialogue]
    rcases story.speakerName speaker with ⟨name, complaint⟩
    have hs : story.Suits scene.stage (.setDialogue name text) := .other rfl
    cases complaint with
    | none => exact .one hs
    | some complaint => exact .one hs

theorem draws_performNarration {text : Option String} :
    story.Draws scene.stage (Event.commands (performNarration scene place text).events)
      (performNarration scene place text).scene.stage := by
  cases text with
  | none => exact .nil _
  | some text => exact .one (.other rfl)

theorem draws_performAssignment {key : Option String} {source : Option ValueSource} :
    story.Draws scene.stage (Event.commands (performAssignment scene place key source).events)
      (performAssignment scene place key source).scene.stage := by
  unfold performAssignment
  split
  · exact .nil _
  · split <;> exact .nil _
  · exact .nil _

theorem draws_transfer {target : String} :
    story.Draws scene.stage (Event.commands (story.transfer scene place target).events)
      (story.transfer scene place target).scene.stage := by
  rw [transfer]
  split <;> exact .nil _

theorem draws_transfer? {target : Option String} :
    story.Draws scene.stage (Event.commands (story.transfer? scene place target).events)
      (story.transfer? scene place target).scene.stage := by
  cases target with
  | none => exact .nil _
  | some target => exact draws_transfer

theorem draws_performBranch {test : Option Test} {target otherwise : Option String} :
    story.Draws scene.stage
      (Event.commands (story.performBranch scene place test target otherwise).events)
      (story.performBranch scene place test target otherwise).scene.stage := by
  unfold performBranch
  split
  · exact .nil _
  · split
    · exact .nil _
    · exact draws_transfer?
    · split
      · exact draws_transfer
      · exact .nil _

theorem draws_performChoice {prompt : Option String} {options : List ChoiceOption} :
    story.Draws scene.stage (Event.commands (performChoice scene place prompt options).events)
      (performChoice scene place prompt options).scene.stage := by
  rw [performChoice]
  split
  · exact .nil _
  · exact .one (.other rfl)

/-- The commands of a step draw the stage that the step leaves. -/
theorem draws_perform (h : story.Cast scene.stage) (place : Cursor) (step : Step) :
    story.Draws scene.stage (Event.commands (story.perform scene place step).events)
      (story.perform scene place step).scene.stage := by
  cases step with
  | background name => exact draws_performBackground
  | showCharacter name pose position => exact draws_performAppearance h
  | hideCharacter name => exact draws_performDisappearance
  | dialogue speaker text => exact draws_performDialogue
  | narration text => exact draws_performNarration
  | setVariable key source => exact draws_performAssignment
  | jump target => exact draws_transfer?
  | branch test target otherwise => exact draws_performBranch
  | choice prompt options => exact draws_performChoice
  | ending => exact .one (.other rfl)
  | unrecognized kind => exact .nil _

namespace Draws

variable {before : List Command} {events : List Event}

/-- A step goes on with the picture that was drawn since nobody was on the stage. -/
theorem record
    (h : story.Draws Stage.empty (before ++ Event.commands events) scene.stage)
    (place : Cursor) (step : Step) :
    story.Draws Stage.empty
      (before ++ Event.commands (events ++ story.record scene place step))
      (story.perform scene place step).scene.stage := by
  rw [Event.commands_append, ← List.append_assoc]
  exact h.append (story.draws_perform (h.cast story.cast_empty) place step)

/-- An event that is no command leaves the picture as it is. -/
theorem concat_of_none {event : Event} (hn : event.command? = none)
    (h : story.Draws stage (before ++ Event.commands events) final) :
    story.Draws stage (before ++ Event.commands (events ++ [event])) final := by
  rw [Event.commands_concat_of_none _ hn]
  exact h

end Draws

end Story

namespace Playback.Engine

variable {e : Engine} {before : List Command}

/-- After the commands before, a call has drawn the stage of the engine. -/
structure Drawn (story : Story) (before : List Command) (o : Outcome) : Prop where
  story_eq : o.engine.story = story
  draws : story.Draws Stage.empty (before ++ o.commands) o.engine.scene.stage

theorem drawnRule (story : Story) (limit : Nat) (before : List Command) :
    WalkRule story limit
      (fun events scene _ =>
        story.Draws Stage.empty (before ++ Event.commands events) scene.stage)
      (Drawn story before) where
  tripped h := ⟨rfl, h⟩
  lost h _ := ⟨rfl, h.concat_of_none rfl⟩
  exhausted h _ _ := ⟨rfl, h.concat_of_none rfl⟩
  next h _ _ := h.record _ _
  goTo h _ _ := h.record _ _
  pause h _ _ := ⟨rfl, h.record _ _⟩
  halt h _ _ := ⟨rfl, h.record _ _⟩
  fail h _ _ := ⟨rfl, (h.record _ _).concat_of_none rfl⟩

/-! ## Calls -/

/-- A walk departs with the picture that was drawn before. -/
theorem Departs.draws {c : Call} {events : List Event} {scene : Scene} {place : Cursor}
    (hd : e.Departs c events scene place) (hr : c = .restart → before = [])
    (hp : c ≠ .restart → e.story.Draws Stage.empty before e.scene.stage) :
    e.story.Draws Stage.empty (before ++ Event.commands events) scene.stage := by
  cases hd with
  | restart hok =>
    obtain rfl := hr rfl
    exact .nil _
  | start _ _ | advance _ _ | goOn _ _ _ _ | leave _ _ _ _ _ =>
    have h := hp (by simp)
    rwa [← List.append_nil before] at h

theorem drawn_of_no_commands {story : Story} {o : Outcome} (hs : o.engine.story = story)
    (hn : o.commands = []) (hd : story.Draws Stage.empty before o.engine.scene.stage) :
    Drawn story before o := by
  refine ⟨hs, ?_⟩
  rwa [hn, List.append_nil]

theorem Called.drawn {c : Call} {o : Outcome} (hcalled : e.Called c o)
    (hr : c = .restart → before = [])
    (hp : c ≠ .restart → e.story.Draws Stage.empty before e.scene.stage) :
    Drawn e.story before o := by
  cases hcalled with
  | refused h => exact drawn_of_no_commands rfl rfl (hp h.ne_restart)
  | ignored hsignal _ => exact drawn_of_no_commands rfl rfl (hp (Call.ne_restart_of_signal hsignal))
  | unrestarted _ =>
    obtain rfl := hr rfl
    exact drawn_of_no_commands rfl rfl (.nil _)
  | effectFailed _ _ _ => exact drawn_of_no_commands rfl rfl (hp (by simp))
  | stranded _ _ _ _ _ => exact drawn_of_no_commands rfl rfl (hp (by simp))
  | walked hd => exact Story.walk_spec (drawnRule e.story e.limit before) _ (hd.draws hr hp)

/-- A call goes on with the picture of the playthrough; a restart begins a new one. -/
theorem drawn_call (c : Call) (hr : c = .restart → before = [])
    (hp : c ≠ .restart → e.story.Draws Stage.empty before e.scene.stage) :
    Drawn e.story before (e.call c) :=
  (e.called c).drawn hr hp

end Playback.Engine

namespace Playback.Playthrough

/-- The commands sent during a playthrough. -/
def commands (p : Playthrough) : List Command :=
  Event.commands p.events

variable {story : Story} {p : Playthrough}

theorem commands_call (p : Playthrough) {c : Engine.Call} (hc : c ≠ .restart) :
    (p.call c).commands = p.commands ++ (p.engine.call c).commands := by
  rw [commands, events_call p hc, Event.commands_append, commands, Outcome.commands]

/-- The commands of a playthrough of a story have drawn the stage of the engine. -/
structure Shown (story : Story) (p : Playthrough) : Prop where
  story_eq : p.engine.story = story
  draws : story.Draws Stage.empty p.commands p.engine.scene.stage

theorem shown_call (h : Shown story p) (c : Engine.Call) : Shown story (p.call c) := by
  obtain ⟨rfl, hd⟩ := h
  by_cases hc : c = .restart
  · subst hc
    have hdrawn : Engine.Drawn p.engine.story [] (p.engine.call .restart) :=
      Engine.drawn_call _ (fun _ => rfl) fun h => absurd rfl h
    exact ⟨hdrawn.story_eq, hdrawn.draws⟩
  · have hdrawn : Engine.Drawn p.engine.story p.commands (p.engine.call c) :=
      Engine.drawn_call c (fun h => absurd h hc) fun _ => hd
    refine ⟨hdrawn.story_eq, ?_⟩
    rw [commands_call p hc]
    exact hdrawn.draws

theorem shown_play (story : Story) (limit : Nat) (calls : List Engine.Call) :
    Shown story ((opened story limit).play calls) :=
  play_induction (I := Shown story) (fun _ c h => shown_call h c) ⟨rfl, .nil _⟩ calls

/-- How the commands of a playthrough and the stage of its engine agree. -/
structure Pictured (story : Story) (commands : List Command) (stage : Stage) : Prop where
  picture : commands.foldl Stage.after Stage.empty = stage
  once : ∀ p q name, stage.get? p = some name → stage.get? q = some name → p = q
  known : ∀ p name, stage.get? p = some name → ∃ c, story.characters.get? name = some c
  clears : ∀ before position rest, commands = before ++ .clearSprite position :: rest →
    ∃ name, (before.foldl Stage.after Stage.empty).get? position = some name

/-- Whatever has been called since an engine was made or last restarted, and whatever the calls
returned, the picture that the commands have drawn since then is the stage. Only characters of the
story are on it, each at one position, and only positions where somebody stood were cleared. -/
theorem pictured_play (story : Story) (limit : Nat) (calls : List Engine.Call) :
    Pictured story ((opened story limit).play calls).commands
      ((opened story limit).play calls).engine.scene.stage := by
  obtain ⟨-, hd⟩ := shown_play story limit calls
  have hcast := hd.cast story.cast_empty
  refine ⟨hd.foldl_eq, hcast.once, hcast.known, ?_⟩
  intro before position rest hsplit
  rw [hsplit] at hd
  cases hd.suits with
  | clear hp => exact ⟨_, hp⟩
  | other hn => exact absurd hn (by simp [Command.position?])

end Playback.Playthrough

end BranchingStory
