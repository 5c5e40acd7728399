import BranchingStory.Proofs.Picture

/-!
# Starting again

A restart is a start: whatever was called before, from a restart on the engine does what a new
engine for the story does from its start on (`map_sight_outcomes_restart`).

To a viewer a restart is less than a start. It takes all characters off the stage without sending a
command, so the picture stays as it was at every position that the start does not draw on
(`picture_restart_iff`).
-/

namespace BranchingStory

open Playback

/-! ## Fresh starts -/

namespace Playback

/-- What can be seen of an outcome from outside. -/
structure Sight where
  /-- Whether the call failed. -/
  result : Except EngineError Unit
  /-- What the engine is doing after it. -/
  status : Status
  /-- The address of the node that the engine is at. -/
  node : Option String
  /-- The number of the step that the engine is at. -/
  index : Nat
  /-- The values of the variables. -/
  vars : Variables
  /-- Who stands where. -/
  stage : Stage
  /-- The commands that the call sent. -/
  commands : List Command

/-- What is seen of an outcome. -/
def Outcome.sight (o : Outcome) : Sight where
  result := o.result
  status := o.engine.status
  node := o.engine.node?
  index := o.engine.index
  vars := o.engine.scene.vars
  stage := o.engine.scene.stage
  commands := o.commands

/-- Of what happened before, only the commands are seen. -/
theorem Outcome.sight_after {events : List Event} (h : Event.commands events = []) (o : Outcome) :
    (o.after events).sight = o.sight := by
  have hcommands : (o.after events).commands = o.commands := by
    show Event.commands (events ++ o.events) = Event.commands o.events
    rw [Event.commands_append, h, List.nil_append]
  rw [sight, hcommands]
  rfl

end Playback

namespace Playback.Engine

variable {e : Engine}

/-- An engine plays a story with a limit. -/
structure Plays (story : Story) (limit : Nat) (e : Engine) : Prop where
  story_eq : e.story = story
  limit_eq : e.limit = limit

theorem playsRule (story : Story) (limit : Nat) :
    WalkRule story limit (fun _ _ _ => True) (fun o => o.engine.Plays story limit) where
  tripped _ := ⟨rfl, rfl⟩
  lost _ _ := ⟨rfl, rfl⟩
  exhausted _ _ _ := ⟨rfl, rfl⟩
  next _ _ _ := trivial
  goTo _ _ _ := trivial
  pause _ _ _ := ⟨rfl, rfl⟩
  halt _ _ _ := ⟨rfl, rfl⟩
  fail _ _ _ := ⟨rfl, rfl⟩

theorem Called.plays {c : Call} {o : Outcome} (hcalled : e.Called c o) :
    o.engine.Plays e.story e.limit := by
  cases hcalled with
  | walked _ => exact Story.walk_spec (playsRule e.story e.limit) _ trivial
  | _ => exact ⟨rfl, rfl⟩

/-- No call exchanges the story or the limit. -/
theorem plays_play (story : Story) (limit : Nat) (calls : List Call) :
    ((idle story limit).play calls).Plays story limit := by
  refine play_induction (fun e c h => ?_) ⟨rfl, rfl⟩ calls
  obtain ⟨rfl, rfl⟩ := h
  exact (e.called c).plays

/-- A restart does not depend on what happened before. -/
theorem restart_play (story : Story) (limit : Nat) (calls : List Call) :
    ((idle story limit).play calls).restart = (idle story limit).start.after [.restarting] := by
  obtain ⟨hstory, hlimit⟩ := plays_play story limit calls
  rw [restart, hstory, hlimit]

/-- Nothing that was called before a restart can be seen in what follows: the restart and all calls
after it look like the start of a new engine for the story and the same calls after that. -/
theorem map_sight_outcomes_restart (story : Story) (limit : Nat) (before after : List Call) :
    (((idle story limit).play before).outcomes (.restart :: after)).map Outcome.sight =
      ((idle story limit).outcomes (.start :: after)).map Outcome.sight := by
  have hr := restart_play story limit before
  have hengine : ((idle story limit).play before).restart.engine =
      (idle story limit).start.engine := by rw [hr, Outcome.after]
  have hsight : ((idle story limit).play before).restart.sight =
      (idle story limit).start.sight := by rw [hr, Outcome.sight_after rfl]
  simp only [outcomes, call, List.map_cons, hengine, hsight]

end Playback.Engine

/-! ## The picture after a restart -/

namespace Playback.Stage

variable {stage other : Stage} {command : Command} {commands : List Command} {p : Position}

/-- Commands draw at a position. -/
def DrawnOn (commands : List Command) (p : Position) : Prop :=
  ∃ command ∈ commands, command.position? = some p

theorem get?_after_of_ne (stage : Stage) (h : command.position? ≠ some p) :
    (stage.after command).get? p = stage.get? p := by
  cases command with
  | setSprite position name image =>
    exact get?_set_of_ne stage _ fun heq => h (congrArg some heq)
  | clearSprite position => exact get?_set_of_ne stage _ fun heq => h (congrArg some heq)
  | _ => rfl

theorem get?_after_of_eq (stage other : Stage) (h : command.position? = some p) :
    (stage.after command).get? p = (other.after command).get? p := by
  cases command with
  | setSprite position name image | clearSprite position =>
    obtain rfl := Option.some.inj h
    simp only [after, get?_set_self]
  | _ => exact absurd h (by simp [Command.position?])

theorem get?_after_congr (command : Command) (h : stage.get? p = other.get? p) :
    (stage.after command).get? p = (other.after command).get? p := by
  by_cases hp : command.position? = some p
  · exact get?_after_of_eq stage other hp
  · rw [get?_after_of_ne stage hp, get?_after_of_ne other hp, h]

theorem get?_foldl_congr (commands : List Command) (h : stage.get? p = other.get? p) :
    (commands.foldl after stage).get? p = (commands.foldl after other).get? p := by
  induction commands generalizing stage other with
  | nil => exact h
  | cons command rest ih => exact ih (get?_after_congr command h)

/-- What is not drawn on stays. -/
theorem get?_foldl_of_not_drawnOn (stage : Stage) (h : ¬ DrawnOn commands p) :
    (commands.foldl after stage).get? p = stage.get? p := by
  induction commands generalizing stage with
  | nil => rfl
  | cons command rest ih =>
    have hcommand : command.position? ≠ some p := fun hp => h ⟨command, .head _, hp⟩
    have hrest : ¬ DrawnOn rest p := fun ⟨c, hc, hp⟩ => h ⟨c, .tail _ hc, hp⟩
    rw [List.foldl_cons, ih _ hrest, get?_after_of_ne stage hcommand]

/-- What is drawn on does not depend on what was there before. -/
theorem get?_foldl_of_drawnOn (stage other : Stage) (h : DrawnOn commands p) :
    (commands.foldl after stage).get? p = (commands.foldl after other).get? p := by
  induction commands generalizing stage other with
  | nil =>
    obtain ⟨command, hc, -⟩ := h
    exact absurd hc List.not_mem_nil
  | cons command rest ih =>
    rw [List.foldl_cons, List.foldl_cons]
    obtain ⟨c, hc, hp⟩ := h
    rcases List.mem_cons.1 hc with rfl | hc
    · exact get?_foldl_congr rest (get?_after_of_eq stage other hp)
    · exact ih _ _ ⟨c, hc, hp⟩

end Playback.Stage

namespace Playback.Engine

/-- The commands of a restart draw the new stage on an empty one. -/
theorem foldl_commands_restart (e : Engine) :
    e.restart.commands.foldl Stage.after Stage.empty = e.restart.engine.scene.stage := by
  have hdrawn : Drawn e.story [] (e.call .restart) :=
    drawn_call _ (fun _ => rfl) fun h => absurd rfl h
  exact hdrawn.draws.foldl_eq

/-- After a restart the picture is the stage if and only if the restart has drawn at every position
where somebody stood. -/
theorem picture_restart_iff (e : Engine) :
    e.restart.commands.foldl Stage.after e.scene.stage = e.restart.engine.scene.stage ↔
      ∀ p name, e.scene.stage.get? p = some name → Stage.DrawnOn e.restart.commands p := by
  rw [← foldl_commands_restart]
  constructor
  · intro heq p name hp
    refine Classical.byContradiction fun hn => ?_
    have hget := congrArg (Stage.get? · p) heq
    simp only [Stage.get?_foldl_of_not_drawnOn _ hn, Stage.get?_empty, hp] at hget
    exact absurd hget (by simp)
  · intro h
    refine Stage.ext_get? fun p => ?_
    by_cases hd : Stage.DrawnOn e.restart.commands p
    · exact Stage.get?_foldl_of_drawnOn _ _ hd
    · rw [Stage.get?_foldl_of_not_drawnOn _ hd, Stage.get?_foldl_of_not_drawnOn _ hd,
        Stage.get?_empty]
      cases hp : e.scene.stage.get? p with
      | none => rfl
      | some name => exact absurd (h p name hp) hd

/-- A story in which somebody appears after the first line. -/
def lateAppearance : Story where
  start := "A"
  vars := none
  nodes := .group [("A", .leaf [.narration (some "Nobody."),
    .showCharacter (some "bob") (some "happy") (some .left), .narration (some "Bob.")])]
  characters := [("bob", ⟨"Bob", [("happy", "bob.png")]⟩)]
  places := []

/-- An engine that has shown both lines. -/
def appeared : Engine :=
  (idle lateAppearance 5).play [.start, .advance]

/-- A restart leaves the character in the picture: nobody is on the stage any more, but no command
says so. -/
theorem picture_restart_of_lateAppearance :
    appeared.scene.stage = { left := some "bob" } ∧
      appeared.restart.engine.scene.stage = Stage.empty ∧
      appeared.restart.commands.foldl Stage.after appeared.scene.stage ≠
        appeared.restart.engine.scene.stage := by
  decide

end Playback.Engine

end BranchingStory
