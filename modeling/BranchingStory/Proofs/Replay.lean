import BranchingStory.Proofs.Calls
import BranchingStory.Proofs.LoadedSteps

/-!
# Writing variables

Only two things write variables: a step that sets one, and the effect of an option that is taken.
Both are in the journal, so the variables of an engine are what a replay of the journal makes of the
variables at the start (`replayed_play`). This takes that an effect that fails, and so is not in the
journal, leaves the variables as they were; scripts do.
-/

namespace BranchingStory

open Playback

namespace Playback.Event

/-- Whether an event is about something that writes variables. -/
def isWrite : Event → Bool
  | stored _ _ _ => true
  | taken _ _ _ => true
  | _ => false

/-- The variables after an event. -/
def write (vars : Variables) : Event → Variables
  | stored _ key value => vars.insert key value
  | taken _ _ o => (o.apply vars).1
  | _ => vars

/-- The variables after the events of a journal. -/
def replay (vars : Variables) (events : List Event) : Variables :=
  events.foldl write vars

variable {vars : Variables}

theorem write_of_not_isWrite {event : Event} (h : event.isWrite = false) :
    write vars event = vars := by
  cases event with
  | stored place key value => exact absurd h (by simp [isWrite])
  | taken place index o => exact absurd h (by simp [isWrite])
  | _ => rfl

theorem replay_append (vars : Variables) (first second : List Event) :
    replay vars (first ++ second) = replay (replay vars first) second :=
  List.foldl_append

theorem replay_of_no_writes {events : List Event} (h : ∀ event ∈ events, event.isWrite = false) :
    replay vars events = vars := by
  induction events with
  | nil => rfl
  | cons event rest ih =>
    obtain ⟨hevent, hrest⟩ := List.forall_mem_cons.1 h
    rw [replay, List.foldl_cons, write_of_not_isWrite hevent]
    exact ih hrest

end Playback.Event

/-- The values that a source of values gives for variables. -/
inductive ValueSource.Gives (vars : Variables) : ValueSource → Value → Prop
  | literal (value : Value) : Gives vars (.literal value) value
  | computed {compute : Compute} {value : Value} (h : compute vars = .ok value) :
    Gives vars (.computed compute) value

namespace Story

variable {story : Story} {scene : Scene} {place : Cursor}

/-! ## Steps -/

/-- What a step does to the variables: it sets one, and says so, or it leaves them alone. -/
inductive Writes (vars : Variables) (place : Cursor) (step : Step) (done : Performance) : Prop
  | stores {key : String} {source : ValueSource} {value : Value}
    (hs : step = .setVariable (some key) (some source)) (hg : source.Gives vars value)
    (hv : done.scene.vars = vars.insert key value) (he : done.events = [.stored place key value])
  | leaves (hv : done.scene.vars = vars) (he : ∀ event ∈ done.events, event.isWrite = false)

theorem writes_skip {step : Step} {complaint : Complaint} :
    Writes scene.vars place step (scene.skip place complaint) :=
  .leaves rfl (List.forall_mem_singleton.2 rfl)

theorem writes_performBackground {name : Option String} :
    Writes scene.vars place (.background name) (story.performBackground scene place name) := by
  unfold performBackground
  split
  · exact writes_skip
  · split
    · exact writes_skip
    · exact .leaves rfl (List.forall_mem_singleton.2 rfl)

theorem writes_enter {step : Step} {name image : String} {position : Position} :
    Writes scene.vars place step (enter scene name image position) := by
  rw [enter]
  cases scene.stage.positionOf? name with
  | none => exact .leaves rfl (List.forall_mem_singleton.2 rfl)
  | some before =>
    dsimp only
    split
    · exact .leaves rfl (List.forall_mem_singleton.2 rfl)
    · exact .leaves rfl (List.forall_mem_cons.2 ⟨rfl, List.forall_mem_singleton.2 rfl⟩)

theorem writes_performAppearance {name pose : Option String} {position : Option Position} :
    Writes scene.vars place (.showCharacter name pose position)
      (story.performAppearance scene place name pose position) := by
  unfold performAppearance
  split
  · split
    · exact writes_skip
    · split
      · exact writes_skip
      · exact writes_enter
  · exact writes_skip

theorem writes_performDisappearance {name : Option String} :
    Writes scene.vars place (.hideCharacter name) (performDisappearance scene place name) := by
  unfold performDisappearance
  split
  · exact writes_skip
  · split <;> exact .leaves rfl (List.forall_mem_singleton.2 rfl)

theorem writes_performDialogue {speaker text : Option String} :
    Writes scene.vars place (.dialogue speaker text)
      (story.performDialogue scene place speaker text) := by
  cases text with
  | none => exact writes_skip
  | some text =>
    rw [performDialogue]
    rcases story.speakerName speaker with ⟨name, complaint⟩
    cases complaint with
    | none => exact .leaves rfl (List.forall_mem_singleton.2 rfl)
    | some complaint =>
      exact .leaves rfl (List.forall_mem_cons.2 ⟨rfl, List.forall_mem_singleton.2 rfl⟩)

theorem writes_performNarration {text : Option String} :
    Writes scene.vars place (.narration text) (performNarration scene place text) := by
  cases text with
  | none => exact writes_skip
  | some text => exact .leaves rfl (List.forall_mem_singleton.2 rfl)

theorem writes_performAssignment {key : Option String} {source : Option ValueSource} :
    Writes scene.vars place (.setVariable key source)
      (performAssignment scene place key source) := by
  unfold performAssignment
  split
  · next key value => exact .stores rfl (.literal value) rfl rfl
  · split
    · next value hv => exact .stores rfl (.computed hv) rfl rfl
    · exact .leaves rfl (List.forall_mem_nil _)
  · exact writes_skip

theorem writes_transfer {step : Step} {target : String} :
    Writes scene.vars place step (story.transfer scene place target) := by
  rw [transfer]
  split <;> exact .leaves rfl (List.forall_mem_singleton.2 rfl)

theorem writes_transfer? {step : Step} {target : Option String} :
    Writes scene.vars place step (story.transfer? scene place target) := by
  cases target with
  | none => exact .leaves rfl (List.forall_mem_singleton.2 rfl)
  | some target => exact writes_transfer

theorem writes_performBranch {test : Option Test} {target otherwise : Option String} :
    Writes scene.vars place (.branch test target otherwise)
      (story.performBranch scene place test target otherwise) := by
  unfold performBranch
  split
  · exact writes_skip
  · split
    · exact .leaves rfl (List.forall_mem_nil _)
    · exact writes_transfer?
    · split
      · exact writes_transfer
      · exact .leaves rfl (List.forall_mem_nil _)

theorem writes_performChoice {prompt : Option String} {options : List ChoiceOption} :
    Writes scene.vars place (.choice prompt options)
      (performChoice scene place prompt options) := by
  rw [performChoice]
  split
  · exact writes_skip
  · exact .leaves rfl (List.forall_mem_singleton.2 rfl)

/-- What a step writes into the variables is what it tells. -/
theorem writes (story : Story) (scene : Scene) (place : Cursor) (step : Step) :
    Writes scene.vars place step (story.perform scene place step) := by
  cases step with
  | background name => exact writes_performBackground
  | showCharacter name pose position => exact writes_performAppearance
  | hideCharacter name => exact writes_performDisappearance
  | dialogue speaker text => exact writes_performDialogue
  | narration text => exact writes_performNarration
  | setVariable key source => exact writes_performAssignment
  | jump target => exact writes_transfer?
  | branch test target otherwise => exact writes_performBranch
  | choice prompt options => exact writes_performChoice
  | ending => exact .leaves rfl (List.forall_mem_singleton.2 rfl)
  | unrecognized kind => exact writes_skip

/-- A step leaves behind what a replay of its events makes of the variables. -/
theorem vars_perform (story : Story) (scene : Scene) (place : Cursor) (step : Step) :
    (story.perform scene place step).scene.vars =
      Event.replay scene.vars (story.record scene place step) := by
  cases story.writes scene place step with
  | stores _ _ hv he =>
    rw [hv, record, he]
    rfl
  | leaves hv he =>
    rw [hv, record, Event.replay_of_no_writes (List.forall_mem_cons.2 ⟨rfl, he⟩)]

/-- What in a journal writes variables goes back to a step of the story, which gave the value
that is stored; effects are not applied by steps. -/
def Justifies (story : Story) : Event → Prop
  | .stored place key value => ∃ source vars, source.Gives vars value ∧
    story.stepAt? place = some (.setVariable (some key) (some source))
  | .taken _ _ _ => False
  | _ => True

theorem justifies_of_not_isWrite {event : Event} (h : event.isWrite = false) :
    story.Justifies event := by
  cases event with
  | stored place key value => exact absurd h (by simp [Event.isWrite])
  | taken place index o => exact absurd h (by simp [Event.isWrite])
  | _ => trivial

theorem justifies_record {step : Step} (hs : story.stepAt? place = some step) :
    ∀ event ∈ story.record scene place step, story.Justifies event := by
  refine List.forall_mem_cons.2 ⟨trivial, ?_⟩
  cases story.writes scene place step with
  | stores heq hg _ he =>
    subst heq
    rw [he]
    exact List.forall_mem_singleton.2 ⟨_, _, hg, hs⟩
  | leaves _ he => exact fun event hevent => justifies_of_not_isWrite (he event hevent)

end Story

namespace Playback.Engine

variable {e : Engine} {c : Call} {o : Outcome}

/-- The variables with which a call begins. -/
def varsBefore (e : Engine) : Call → Variables
  | .restart => e.story.initialVariables
  | _ => e.scene.vars

theorem varsBefore_of_ne_restart (e : Engine) (hc : c ≠ .restart) :
    e.varsBefore c = e.scene.vars := by
  cases c with
  | restart => exact absurd rfl hc
  | _ => rfl

/-- What in the journal of a call writes variables goes back to a step of the story, or is the
effect of the option that the call chooses. -/
def Justifies (e : Engine) (c : Call) : Event → Prop
  | .taken place index o =>
    c = .choose index ∧ ∃ options, e.Offers place options ∧ options[index]? = some o
  | event => e.story.Justifies event

theorem justifies_of_story {event : Event} (h : e.story.Justifies event) : e.Justifies c event := by
  cases event with
  | taken place index o => exact h.elim
  | _ => exact h

/-- The variables of a scene are what a replay of events gives, and these are justified. -/
structure Replays (e : Engine) (c : Call) (events : List Event) (scene : Scene) : Prop where
  vars_eq : scene.vars = Event.replay (e.varsBefore c) events
  justified : ∀ event ∈ events, e.Justifies c event

/-- A call has left the variables that a replay of its journal gives. -/
structure Replayed (e : Engine) (c : Call) (o : Outcome) : Prop where
  story_eq : o.engine.story = e.story
  replays : e.Replays c o.events o.engine.scene

namespace Replays

variable {events : List Event} {scene : Scene} {place : Cursor}

theorem record (h : e.Replays c events scene) {step : Step}
    (hs : e.story.stepAt? place = some step) :
    e.Replays c (events ++ e.story.record scene place step)
      (e.story.perform scene place step).scene where
  vars_eq := by rw [Event.replay_append, ← h.vars_eq, Story.vars_perform]
  justified := List.forall_mem_append.2 ⟨h.justified, fun event hevent =>
    justifies_of_story (Story.justifies_record hs event hevent)⟩

theorem concat (h : e.Replays c events scene) {event : Event} (hn : event.isWrite = false) :
    e.Replays c (events ++ [event]) scene where
  vars_eq := by
    rw [Event.replay_append, ← h.vars_eq,
      Event.replay_of_no_writes (List.forall_mem_singleton.2 hn)]
  justified := List.forall_mem_append.2 ⟨h.justified,
    List.forall_mem_singleton.2 (justifies_of_story (Story.justifies_of_not_isWrite hn))⟩

end Replays

theorem replayRule (e : Engine) (c : Call) :
    WalkRule e.story e.limit (fun events scene _ => e.Replays c events scene) (e.Replayed c) where
  tripped h := ⟨rfl, h⟩
  lost h _ := ⟨rfl, h.concat rfl⟩
  exhausted h _ _ := ⟨rfl, h.concat rfl⟩
  next h hs _ := h.record hs
  goTo h hs _ := h.record hs
  pause h hs _ := ⟨rfl, h.record hs⟩
  halt h hs _ := ⟨rfl, h.record hs⟩
  fail h hs _ := ⟨rfl, (h.record hs).concat rfl⟩

/-! ## Calls -/

theorem justifies_taken {index : Nat} {place : Cursor} {options : List ChoiceOption}
    {o : ChoiceOption} (ho : e.Offers place options) (hi : options[index]? = some o) :
    e.Justifies (.choose index) (.taken place index o) :=
  ⟨rfl, options, ho, hi⟩

/-- A walk departs with the variables that the option leaves which was taken. -/
theorem Departs.replays {events : List Event} {scene : Scene} {place : Cursor}
    (hd : e.Departs c events scene place) : e.Replays c events scene := by
  cases hd with
  | start _ _ => exact ⟨rfl, List.forall_mem_singleton.2 trivial⟩
  | restart _ => exact ⟨rfl, List.forall_mem_cons.2 ⟨trivial, List.forall_mem_singleton.2 trivial⟩⟩
  | advance _ _ => exact ⟨rfl, List.forall_mem_nil _⟩
  | goOn ho hi ha _ =>
    exact ⟨(congrArg Prod.fst ha).symm, List.forall_mem_singleton.2 (justifies_taken ho hi)⟩
  | leave ho hi ha _ _ =>
    exact ⟨(congrArg Prod.fst ha).symm,
      List.forall_mem_cons.2 ⟨justifies_taken ho hi, List.forall_mem_singleton.2 trivial⟩⟩

/-- If the effects of a story that fail leave the variables as they were, then all that a call
writes is in its journal. -/
theorem Called.replayed {language : Script.Language} (hcalled : e.Called c o)
    (hscripts : ∀ place step, e.story.stepAt? place = some step → step.Scripted language place) :
    e.Replayed c o := by
  cases hcalled with
  | refused h =>
    exact ⟨rfl, (e.varsBefore_of_ne_restart h.ne_restart).symm, List.forall_mem_nil _⟩
  | ignored hsignal _ =>
    have hc := e.varsBefore_of_ne_restart (Call.ne_restart_of_signal hsignal)
    exact ⟨rfl, hc.symm, List.forall_mem_singleton.2 trivial⟩
  | unrestarted _ => exact ⟨rfl, rfl, List.forall_mem_singleton.2 trivial⟩
  | effectFailed ho hi ha =>
    -- An effect that fails is not in the journal, so the variables have to be those before it.
    obtain ⟨prompt, hstep⟩ := ho.step
    obtain rfl := (hscripts _ _ hstep).eq_of_effect_fails hi ha
    exact ⟨rfl, rfl, List.forall_mem_nil _⟩
  | stranded ho hi ha _ _ =>
    exact ⟨rfl, (congrArg Prod.fst ha).symm,
      List.forall_mem_cons.2 ⟨justifies_taken ho hi, List.forall_mem_singleton.2 trivial⟩⟩
  | walked hd => exact Story.walk_spec (replayRule e c) _ hd.replays

end Playback.Engine

namespace Playback.Playthrough

variable {language : Script.Language} {story : Story} {p : Playthrough}

/-- The variables of an engine are those that a replay of the playthrough leaves. -/
structure Replayed (story : Story) (p : Playthrough) : Prop where
  story_eq : p.engine.story = story
  vars_eq : p.engine.scene.vars = Event.replay story.initialVariables p.events

theorem replayed_call
    (hscripts : ∀ place step, story.stepAt? place = some step → step.Scripted language place)
    (h : Replayed story p) (c : Engine.Call) : Replayed story (p.call c) := by
  obtain ⟨rfl, hvars⟩ := h
  obtain ⟨hstory, hcall⟩ := (p.engine.called c).replayed hscripts
  by_cases hc : c = .restart
  · subst hc
    exact ⟨hstory, hcall.vars_eq⟩
  · refine ⟨hstory, ?_⟩
    rw [events_call p hc, Event.replay_append, ← hvars, ← p.engine.varsBefore_of_ne_restart hc]
    exact hcall.vars_eq

/-- Whatever has been called since an engine was made or last restarted, its variables are what a
replay of the journal makes of those at the start. -/
theorem replayed_play
    (hscripts : ∀ place step, story.stepAt? place = some step → step.Scripted language place)
    (limit : Nat) (calls : List Engine.Call) :
    Replayed story ((opened story limit).play calls) :=
  play_induction (I := Replayed story) (fun _ c h => replayed_call hscripts h c) ⟨rfl, rfl⟩ calls

end Playback.Playthrough

end BranchingStory
