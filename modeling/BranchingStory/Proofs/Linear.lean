import BranchingStory.Proofs.Display

/-!
# Steps that lead straight on

A step that neither jumps, offers a choice nor asks a function of the author leads to the step after
it: at once, or when the player has read its line. So a story that starts with such steps and then
ends is read from top to bottom (`playsOut_of_straight`): every call shows one line, the last one
shows the end, and what stands after the end is never executed.

A walk and a signal take turns in this, but both go on with the next step. The induction is
therefore over the steps that are left, and the calls are cut where the lines are.
-/

namespace BranchingStory

open Playback

namespace Step

/-- Whether a step leads on to the step after it, whatever the variables are. -/
def isStraight : Step → Bool
  | setVariable _ (some (.computed _)) => false
  | choice _ options => options.isEmpty
  | jump _ => false
  | branch _ _ _ => false
  | ending => false
  | _ => true

/-- The line that a step has for the player to read. -/
def line? : Step → Option String
  | dialogue _ text => text
  | narration text => text
  | _ => none

/-- The lines that some steps have for the player to read. -/
def spoken (steps : List Step) : List String :=
  steps.filterMap line?

theorem spoken_cons (step : Step) (steps : List Step) :
    spoken (step :: steps) = step.line?.toList ++ spoken steps := by
  rw [spoken, List.filterMap_cons]
  cases step.line? <;> rfl

end Step

namespace Playback

/-- The line that a command shows. -/
def Command.line? : Command → Option String
  | setDialogue _ text => some text
  | _ => none

/-- The lines that a call showed. -/
def Outcome.spoken (o : Outcome) : List String :=
  o.commands.filterMap Command.line?

/-- The step that is executed, with its place. -/
def Event.executed? : Event → Option (Cursor × Step)
  | executing place step _ => some (place, step)
  | _ => none

/-- The steps that a call executed, with their places. -/
def Outcome.executed (o : Outcome) : List (Cursor × Step) :=
  o.events.filterMap Event.executed?

end Playback

/-- Some steps stand one after the other in a node, the first of them at a place. -/
def Story.Stands (story : Story) (place : Cursor) (steps : List Step) : Prop :=
  ∀ index step, steps[index]? = some step →
    story.stepAt? ⟨place.node, place.index + index⟩ = some step

/-- What calls lead to that play some steps, the first of them at a place, and the end of the story
after them. -/
structure PlaysOut (place : Cursor) (steps : List Step) (outcomes : List Outcome) : Prop where
  /-- No call fails. -/
  ok : ∀ o ∈ outcomes, o.result = .ok ()
  /-- Each call waits until its line is read, and the last one is at the end. -/
  statuses : outcomes.map (fun o => o.engine.status) =
    List.replicate (Step.spoken steps).length .awaitingAdvance ++ [.ended]
  /-- Each call shows one line, and the last one none. -/
  spoken : outcomes.map Outcome.spoken = (Step.spoken steps).map ([·]) ++ [[]]
  /-- The steps are executed one after the other, and no others. -/
  executed : outcomes.flatMap Outcome.executed =
    ((steps ++ [Step.ending]).zipIdx place.index).map fun found => (⟨place.node, found.2⟩, found.1)
  /-- The end is shown last. -/
  shown : (outcomes.flatMap Outcome.commands).getLast? = some .showEnded
  /-- The engine stays at the end. -/
  cursor : (outcomes.map fun o => o.engine.cursor).getLast? =
    some (some ⟨place.node, place.index + steps.length⟩)

namespace Story

variable {story : Story} {scene : Scene} {place : Cursor} {step : Step} {steps : List Step}

/-! ## Steps -/

theorem Stands.head (h : story.Stands place (step :: steps)) : story.stepAt? place = some step :=
  h 0 step rfl

theorem Stands.tail (h : story.Stands place (step :: steps)) : story.Stands place.next steps := by
  intro index found hfound
  have hnext := h (index + 1) found hfound
  rwa [Nat.add_comm index 1, ← Nat.add_assoc] at hnext

theorem stands_first {node : String} {rest : List Step}
    (hr : story.nodes.resolve node = .ok (steps ++ rest)) : story.Stands (.first node) steps := by
  intro index step hstep
  have hlt : index < steps.length := (List.getElem?_eq_some_iff.1 hstep).1
  refine stepAt?_eq_some_iff.2 ⟨steps ++ rest, hr, ?_⟩
  show (steps ++ rest)[0 + index]? = some step
  rw [Nat.zero_add, List.getElem?_append_left hlt, hstep]

theorem targets_eq_nil_of_isStraight (hs : step.isStraight = true) : step.targets = [] := by
  unfold Step.isStraight at hs
  split at hs <;> simp_all [Step.targets]

/-- Playback waits after a step that has a line. -/
theorem move_of_line? {text : String} (hl : step.line? = some text) :
    (story.perform scene place step).move = .pause .awaitingAdvance := by
  cases step with
  | dialogue speaker text =>
    obtain rfl : text = some _ := hl
    rfl
  | narration text =>
    obtain rfl : text = some _ := hl
    rfl
  | _ => exact absurd hl (by simp [Step.line?])

/-- After a step that leads straight on and has no line, playback goes on with the next one. -/
theorem move_of_isStraight (hs : step.isStraight = true) (hl : step.line? = none) :
    (story.perform scene place step).move = .next := by
  have hg := story.goes scene place step
  have hnone : ∀ node, node ∉ step.targets := by simp [targets_eq_nil_of_isStraight hs]
  generalize (story.perform scene place step).move = move at hg
  cases hg with
  | next _ => rfl
  | goTo h _ => exact absurd (mem_targets_of_leadsTo h) (hnone _)
  | pause h => cases h <;> simp_all [Step.isStraight, Step.line?]
  | halt h ht =>
    cases h with
    | noJumpTarget | noBranchTarget => exact absurd hs (by simp [Step.isStraight])
    | unresolvedTarget hin _ => exact absurd hin (hnone _)
    | _ => exact absurd ht (by simp [Complaint.isAboutTarget])
  | fail h => cases h <;> exact absurd hs (by simp [Step.isStraight])

theorem line?_of_not_isPrompt {command : Command} (h : command.isPrompt = false) :
    command.line? = none := by
  cases command with
  | setDialogue speaker text => exact absurd h (by simp [Command.isPrompt])
  | _ => rfl

/-- A step shows its line, and no other one. -/
theorem spoken_record (story : Story) (scene : Scene) (place : Cursor) (step : Step) :
    (Event.commands (story.record scene place step)).filterMap Command.line? =
      step.line?.toList := by
  rw [commands_record]
  have hp := story.prompts_perform scene place step
  have hm : ∀ text, step.line? = some text →
      (story.perform scene place step).move = .pause .awaitingAdvance := fun _ => move_of_line?
  generalize Event.commands (story.perform scene place step).events = commands at hp
  generalize (story.perform scene place step).move = move at hp hm
  cases hp with
  | wait h => cases h <;> rfl
  | pass hquiet hstay =>
    have hnone : step.line? = none :=
      Option.eq_none_iff_forall_ne_some.2 fun text hl => hstay _ (hm text hl)
    rw [hnone]
    exact List.filterMap_eq_nil_iff.2 fun command h => line?_of_not_isPrompt (hquiet command h)

/-- Executing a step executes nothing else. -/
theorem executed_record (story : Story) (scene : Scene) (place : Cursor) (step : Step) :
    (story.record scene place step).filterMap Event.executed? = [(place, step)] := by
  have hnil : (story.perform scene place step).events.filterMap Event.executed? = [] := by
    refine List.filterMap_eq_nil_iff.2 fun event h => ?_
    cases tells_of_mem_perform h <;> rfl
  rw [record, List.filterMap_cons]
  exact congrArg _ hnil

end Story

/-! ## Calls -/

namespace PlaysOut

variable {place : Cursor} {step : Step} {steps : List Step} {o : Outcome} {outcomes : List Outcome}
  {events : List Event}

theorem index_next (place : Cursor) (step : Step) (steps : List Step) :
    place.next.index + steps.length = place.index + (step :: steps).length := by
  rw [List.length_cons, Nat.add_comm steps.length 1, ← Nat.add_assoc]
  rfl

/-- A step without a line comes before what the calls lead to. -/
theorem pass (h : PlaysOut place.next steps (o :: outcomes)) (hl : step.line? = none)
    (hspoken : (Event.commands events).filterMap Command.line? = [])
    (hexecuted : events.filterMap Event.executed? = [(place, step)]) :
    PlaysOut place (step :: steps) (o.after events :: outcomes) := by
  have hlines : Step.spoken (step :: steps) = Step.spoken steps := by
    rw [Step.spoken_cons, hl]
    rfl
  have hsame : (o.after events).spoken = o.spoken := by
    show (Event.commands (events ++ o.events)).filterMap Command.line? = _
    rw [Event.commands_append, List.filterMap_append, hspoken]
    rfl
  have hfirst : (o.after events).executed = (place, step) :: o.executed := by
    show (events ++ o.events).filterMap Event.executed? = _
    rw [List.filterMap_append, hexecuted]
    rfl
  refine ⟨List.forall_mem_cons.2 (List.forall_mem_cons.1 h.ok), ?_, ?_, ?_, ?_, ?_⟩
  · rw [hlines]
    exact h.statuses
  · rw [hlines, List.map_cons, hsame]
    exact h.spoken
  · rw [List.flatMap_cons, hfirst]
    exact congrArg _ h.executed
  · have hrest : o.commands ++ outcomes.flatMap Outcome.commands =
        (o :: outcomes).flatMap Outcome.commands := rfl
    rw [List.flatMap_cons, Outcome.commands, Outcome.after, Event.commands_append,
      List.append_assoc, ← Outcome.commands, hrest, List.getLast?_append, h.shown]
    rfl
  · rw [← index_next]
    exact h.cursor

/-- A call that shows the line of a step comes before the others. -/
theorem line (h : PlaysOut place.next steps outcomes) {text : String} (hl : step.line? = some text)
    (hresult : o.result = .ok ()) (hstatus : o.engine.status = .awaitingAdvance)
    (hspoken : o.spoken = [text]) (hexecuted : o.executed = [(place, step)]) :
    PlaysOut place (step :: steps) (o :: outcomes) := by
  have hlines : Step.spoken (step :: steps) = text :: Step.spoken steps := by
    rw [Step.spoken_cons, hl]
    rfl
  refine ⟨List.forall_mem_cons.2 ⟨hresult, h.ok⟩, ?_, ?_, ?_, ?_, ?_⟩
  · rw [hlines, List.map_cons, hstatus, h.statuses]
    rfl
  · rw [hlines, List.map_cons, hspoken, h.spoken]
    rfl
  · rw [List.flatMap_cons, hexecuted, h.executed]
    rfl
  · rw [List.flatMap_cons, List.getLast?_append, h.shown]
    rfl
  · rw [← index_next, List.map_cons, List.getLast?_cons, h.cursor]
    rfl

end PlaysOut

namespace Playback.Engine

variable {place : Cursor} {steps : List Step}

/-- A walk that comes to steps that lead straight on, and the signals after it, play them out. -/
theorem playsOut_walkFrom (hs : ∀ step ∈ steps, step.isStraight = true) {budget : Nat} {e : Engine}
    (hplace : e.story.Stands place (steps ++ [.ending])) (hbudget : steps.length < budget)
    (hlimit : steps.length < e.limit) :
    PlaysOut place steps (walkFrom budget e place ::
      (walkFrom budget e place).engine.outcomes
        (List.replicate (Step.spoken steps).length .advance)) := by
  -- Each step spends one unit of the budget; the signal after a line gives the walk a new one.
  induction steps generalizing place budget e with
  | nil =>
    obtain ⟨budget, rfl⟩ := Nat.exists_eq_add_one.2 hbudget
    rw [walkFrom_succ_of_stepAt? budget hplace.head]
    exact ⟨List.forall_mem_singleton.2 rfl, rfl, rfl, rfl, rfl, rfl⟩
  | cons step steps ih =>
    obtain ⟨budget, rfl⟩ := Nat.exists_eq_add_one.2 (Nat.zero_lt_of_lt hbudget)
    have hstraight := hs step List.mem_cons_self
    have hrest := fun found hfound => hs found (List.mem_cons_of_mem step hfound)
    have hspoken := e.story.spoken_record e.scene place step
    have hexecuted := e.story.executed_record e.scene place step
    let next : Engine := { e with scene := (e.story.perform e.scene place step).scene }
    rw [walkFrom_succ_of_stepAt? budget hplace.head, Step.spoken_cons]
    cases hl : step.line? with
    | none =>
      rw [hl] at hspoken
      rw [Story.move_of_isStraight hstraight hl]
      exact (ih (e := next) hrest hplace.tail (Nat.lt_of_succ_lt_succ hbudget)
        (Nat.lt_of_succ_lt hlimit)).pass hl hspoken hexecuted
    | some text =>
      rw [hl] at hspoken
      rw [Story.move_of_line? hl]
      dsimp only
      rw [done_after]
      -- The player reads the line, and the signal sends the engine on from the next step.
      exact (ih (e := (next.placedAt place).withStatus .running) hrest hplace.tail
        (Nat.lt_of_succ_lt hlimit) (Nat.lt_of_succ_lt hlimit)).line hl rfl rfl hspoken hexecuted

/-- A story that starts with steps that lead straight on, and then ends, is read from top to bottom:
it takes one signal for each line, and no call executes a step after the end. -/
theorem playsOut_of_straight (story : Story) (limit : Nat) {steps rest : List Step}
    (hr : story.nodes.resolve story.start = .ok (steps ++ .ending :: rest))
    (hs : ∀ step ∈ steps, step.isStraight = true) (hlimit : steps.length < limit) :
    PlaysOut (.first story.start) steps ((idle story limit).outcomes
      (.start :: List.replicate (Step.spoken steps).length .advance)) := by
  have hstart : (idle story limit).start =
      ((idle story limit).walk (.first story.start)).after [.starting story.start] :=
    start_of_resolved rfl hr
  have hcode : story.nodes.resolve story.start = .ok ((steps ++ [.ending]) ++ rest) := by
    rw [hr, List.append_assoc]
    rfl
  have hplace : story.Stands (.first story.start) (steps ++ [.ending]) := Story.stands_first hcode
  let running := (idle story limit).withStatus .running
  have hwalk := playsOut_walkFrom (e := running) hs hplace hlimit hlimit
  show PlaysOut _ steps ((idle story limit).start :: (idle story limit).start.engine.outcomes _)
  rw [hstart]
  exact ⟨List.forall_mem_cons.2 (List.forall_mem_cons.1 hwalk.ok), hwalk.statuses, hwalk.spoken,
    hwalk.executed, hwalk.shown, hwalk.cursor⟩

/-- Steps with little to show, of which two have a line. -/
def quietSteps : List Step :=
  [.background none, .dialogue (some "Nobody") (some "Who is there?"), .choice none [],
    .narration none, .setVariable (some "x") (some (.literal (.bool true))),
    .narration (some "It is dark."), .unrecognized "fade"]

/-- A story with these steps, and with one after its end. -/
def quietStory : Story where
  start := "A"
  vars := none
  nodes := .group [("A", .leaf (quietSteps ++ [.ending, .narration (some "Never.")]))]
  characters := []
  places := []

/-- It is read with two signals. -/
theorem playsOut_of_quietStory :
    (quietStory.nodes.resolve "A" =
        .ok (quietSteps ++ .ending :: [.narration (some "Never.")]) ∧
      (∀ step ∈ quietSteps, step.isStraight = true) ∧ quietSteps.length < 8) ∧
      PlaysOut (.first "A") quietSteps
        ((idle quietStory 8).outcomes [.start, .advance, .advance]) := by
  have hr : quietStory.nodes.resolve "A" =
      .ok (quietSteps ++ .ending :: [.narration (some "Never.")]) := rfl
  have hs : ∀ step ∈ quietSteps, step.isStraight = true := by simp [quietSteps, Step.isStraight]
  have hlimit : quietSteps.length < 8 := by decide
  exact ⟨⟨hr, hs, hlimit⟩, playsOut_of_straight quietStory 8 hr hs hlimit⟩

end Playback.Engine

end BranchingStory
