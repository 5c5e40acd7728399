import BranchingStory.Proofs.Itinerary
import BranchingStory.Proofs.Restart
import BranchingStory.Proofs.Strides

/-!
# The limit of steps

The limit of an engine is there for stories that go in circles. Every call has the whole limit to
itself (`stepCount_call_le`), and nothing but the error of a walk that needs more steps depends on
it: a run in which no walk fails in this way is the same run with every larger limit
(`outcomes_withLimit`).

A walk executes no more steps than its budget (`lt_stepCount_walkFrom_iff`), and it looks at what is
left of the budget only when nothing is, so the rest is an induction on the budget.
-/

namespace BranchingStory

open Playback

namespace Playback

/-- The outcome for the engine with another limit. -/
def Outcome.withLimit (o : Outcome) (limit : Nat) : Outcome :=
  { o with engine := o.engine.withLimit limit }

end Playback

/-! ## Steps are counted -/

namespace Playback.Engine

variable {e : Engine} {limit : Nat}

theorem stepCount_walkFrom_le (budget : Nat) (e : Engine) (place : Cursor) :
    Event.stepCount (walkFrom budget e place).events ≤ budget := by
  refine Nat.le_of_not_lt fun h => ?_
  exact Nat.lt_irrefl budget (lt_stepCount_walkFrom_iff.1 h).1

theorem Departs.stepCount_eq_zero {c : Call} {events : List Event} {scene : Scene} {place : Cursor}
    (h : e.Departs c events scene place) : Event.stepCount events = 0 := by
  cases h <;> rfl

/-- A call executes no more steps than the limit, however many were executed before. -/
theorem stepCount_call_le (e : Engine) (c : Call) :
    Event.stepCount (e.call c).events ≤ e.limit := by
  have hcalled := e.called c
  generalize e.call c = o at hcalled
  cases hcalled with
  | walked h =>
    rw [Outcome.after, Event.stepCount_append, h.stepCount_eq_zero, Nat.zero_add]
    exact stepCount_walkFrom_le _ _ _
  | _ => exact Nat.zero_le _

/-! ## A larger limit -/

/-- A walk that comes to its end within a budget comes to the same end with a larger one. -/
theorem walkFrom_withLimit {budget budget' : Nat} (hle : budget ≤ budget') {place : Cursor}
    (h : (walkFrom budget e place).tripped = false) :
    walkFrom budget' (e.withLimit limit) place = (walkFrom budget e place).withLimit limit := by
  induction budget generalizing budget' e place with
  | zero => exact absurd h (by simp [walkFrom, fail, Outcome.tripped])
  | succ budget ih =>
    obtain ⟨budget', rfl⟩ : ∃ larger, budget' = larger + 1 :=
      ⟨budget' - 1, (Nat.succ_pred_eq_of_pos (Nat.lt_of_lt_of_le budget.succ_pos hle)).symm⟩
    have hle' : budget ≤ budget' := Nat.le_of_succ_le_succ hle
    have hstory : (e.withLimit limit).story = e.story := rfl
    have hscene : (e.withLimit limit).scene = e.scene := rfl
    rw [walkFrom] at h
    rw [walkFrom, walkFrom, hstory, hscene]
    cases hr : e.story.nodes.resolve place.node with
    | error problem => rfl
    | ok steps =>
      rw [hr] at h
      dsimp only at h ⊢
      cases hs : steps[place.index]? with
      | none => rfl
      | some step =>
        rw [hs] at h
        dsimp only at h ⊢
        cases hm : (e.story.perform e.scene place step).move with
        | next =>
          rw [hm] at h
          exact congrArg (Outcome.after _) (ih hle' h)
        | goTo node =>
          rw [hm] at h
          exact congrArg (Outcome.after _) (ih hle' h)
        | pause status | halt | fail error => rfl

theorem walk_withLimit (hle : e.limit ≤ limit) {place : Cursor}
    (h : (e.walk place).tripped = false) :
    (e.withLimit limit).walk place = (e.walk place).withLimit limit :=
  walkFrom_withLimit hle h

theorem start_withLimit (hle : e.limit ≤ limit) (h : e.start.tripped = false) :
    (e.withLimit limit).start = e.start.withLimit limit := by
  rw [start] at h
  rw [start, start]
  have hstory : (e.withLimit limit).story = e.story := rfl
  have hstatus : (e.withLimit limit).status = e.status := rfl
  rw [hstory, hstatus]
  by_cases hs : e.status = .idle
  · rw [if_pos hs] at h
    rw [if_pos hs, if_pos hs]
    cases hr : e.story.nodes.resolve e.story.start with
    | error problem => rfl
    | ok steps =>
      rw [hr] at h
      exact congrArg (Outcome.after _) (walk_withLimit hle h)
  · rw [if_neg hs, if_neg hs]
    rfl

theorem advance_withLimit (hle : e.limit ≤ limit) (h : e.advance.tripped = false) :
    (e.withLimit limit).advance = e.advance.withLimit limit := by
  obtain ⟨story, own, scene, status, cursor⟩ := e
  cases status with
  | awaitingAdvance =>
    cases cursor with
    | none => rfl
    | some place => exact walk_withLimit hle h
  | idle | running | awaitingChoice | halted | ended => rfl

theorem leaveChoice_withLimit (hle : e.limit ≤ limit) {place : Cursor} {target : Option String}
    (h : (e.leaveChoice place target).tripped = false) :
    (e.withLimit limit).leaveChoice place target =
      (e.leaveChoice place target).withLimit limit := by
  cases target with
  | none => exact walk_withLimit hle h
  | some target =>
    have htransfer : (e.withLimit limit).story.transfer (e.withLimit limit).scene place target =
        e.story.transfer e.scene place target := rfl
    rw [leaveChoice] at h
    rw [leaveChoice, leaveChoice, htransfer]
    cases hm : (e.story.transfer e.scene place target).move with
    | goTo node =>
      rw [hm] at h
      exact congrArg (Outcome.after _) (walk_withLimit hle h)
    | next | pause status | halt | fail error => rfl

theorem take_withLimit (hle : e.limit ≤ limit) {place : Cursor} {index : Nat} {o : ChoiceOption}
    (h : (e.take place index o).tripped = false) :
    (e.withLimit limit).take place index o = (e.take place index o).withLimit limit := by
  rw [take] at h
  rw [take, take]
  cases he : o.effect with
  | none =>
    rw [he] at h
    exact congrArg (Outcome.after _) (leaveChoice_withLimit hle h)
  | some effect =>
    have hvars : (e.withLimit limit).scene.vars = e.scene.vars := rfl
    rw [he] at h
    dsimp only at h ⊢
    rw [hvars]
    rcases hv : effect e.scene.vars with ⟨vars, result⟩
    rw [hv] at h
    cases result with
    | error error => rfl
    | ok _ =>
      have hleave := leaveChoice_withLimit (e := { e with scene := { e.scene with vars } }) hle h
      exact congrArg (Outcome.after _) hleave

theorem choose_withLimit (hle : e.limit ≤ limit) {index : Nat}
    (h : (e.choose index).tripped = false) :
    (e.withLimit limit).choose index = (e.choose index).withLimit limit := by
  obtain ⟨story, own, scene, status, cursor⟩ := e
  cases status with
  | awaitingChoice =>
    cases cursor with
    | none => rfl
    | some place =>
      simp only [choose] at h
      simp only [choose, withLimit]
      cases hr : story.nodes.resolve place.node with
      | error problem => rfl
      | ok steps =>
        rw [hr] at h
        dsimp only at h ⊢
        split
        · next prompt options hs =>
          rw [hs] at h
          dsimp only at h
          cases hi : options[index]? with
          | none => rfl
          | some o =>
            rw [hi] at h
            exact take_withLimit (e := ⟨story, own, scene, .awaitingChoice, some place⟩) hle h
        · rfl
  | idle | running | awaitingAdvance | halted | ended => rfl

theorem restart_withLimit (hle : e.limit ≤ limit) (h : e.restart.tripped = false) :
    (e.withLimit limit).restart = e.restart.withLimit limit :=
  congrArg (Outcome.after _) (start_withLimit (e := idle e.story e.limit) hle h)

theorem call_withLimit (hle : e.limit ≤ limit) {c : Call} (h : (e.call c).tripped = false) :
    (e.withLimit limit).call c = (e.call c).withLimit limit := by
  cases c with
  | start => exact start_withLimit hle h
  | advance => exact advance_withLimit hle h
  | choose index => exact choose_withLimit hle h
  | restart => exact restart_withLimit hle h

/-- A run in which no walk exceeds the limit is the same run with a larger limit. -/
theorem outcomes_withLimit (hle : e.limit ≤ limit) {calls : List Call}
    (h : ∀ o ∈ e.outcomes calls, o.tripped = false) :
    (e.withLimit limit).outcomes calls =
      (e.outcomes calls).map fun o => o.withLimit limit := by
  induction calls generalizing e with
  | nil => rfl
  | cons c rest ih =>
    rw [outcomes] at h
    obtain ⟨hcall, hrest⟩ := List.forall_mem_cons.1 h
    have hlimit : (e.call c).engine.limit ≤ limit := (e.called c).plays.limit_eq ▸ hle
    rw [outcomes, outcomes, call_withLimit hle hcall, List.map_cons]
    exact congrArg _ (ih hlimit hrest)

theorem stepCount_outcomes_le (hlimit : e.limit = limit) {calls : List Call} {o : Outcome}
    (h : o ∈ e.outcomes calls) : Event.stepCount o.events ≤ limit := by
  induction calls generalizing e with
  | nil => exact absurd h List.not_mem_nil
  | cons c rest ih =>
    rcases List.mem_cons.1 h with rfl | h
    · exact hlimit ▸ stepCount_call_le e c
    · exact ih ((e.called c).plays.limit_eq.trans hlimit) h

/-- A limit that no call of a run exceeds cannot be seen: with every larger limit the run looks the
same. Each call by itself executes at most as many steps as the limit says. -/
theorem limit_transparent (story : Story) {limit limit' : Nat} (hle : limit ≤ limit')
    (calls : List Call) :
    ((∀ o ∈ (idle story limit).outcomes calls, o.tripped = false) →
        ((idle story limit').outcomes calls).map Outcome.sight =
          ((idle story limit).outcomes calls).map Outcome.sight) ∧
      ∀ o ∈ (idle story limit).outcomes calls, Event.stepCount o.events ≤ limit := by
  refine ⟨fun h => ?_, fun o => stepCount_outcomes_le rfl⟩
  have hrun : (idle story limit').outcomes calls =
      ((idle story limit).outcomes calls).map fun o => o.withLimit limit' :=
    outcomes_withLimit (e := idle story limit) hle h
  rw [hrun, List.map_map]
  rfl

/-- A story in which the player can go round in circles. -/
def roundabout : Story where
  start := "A"
  vars := none
  nodes := .group [
    ("A", .leaf [.narration (some "Round."), .jump (some "B")]),
    ("B", .leaf [.choice none [⟨some "Again", some "A", none⟩, ⟨some "Out", some "C", none⟩]]),
    ("C", .leaf [.ending])]
  characters := []
  places := []

/-- The player goes round once, asks for an option that is not there, and leaves. -/
def onceAround : List Call :=
  [.start, .advance, .choose 0, .advance, .choose 7, .choose 1]

/-- A limit of two steps is enough for a run of seven steps, since no call needs more; a limit of
one is not. -/
theorem limit_transparent_of_roundabout :
    (2 ≤ 10000 ∧ ∀ o ∈ (idle roundabout 2).outcomes onceAround, o.tripped = false) ∧
      ((idle roundabout 10000).outcomes onceAround).map Outcome.sight =
        ((idle roundabout 2).outcomes onceAround).map Outcome.sight ∧
      (∀ o ∈ (idle roundabout 2).outcomes onceAround, Event.stepCount o.events ≤ 2) ∧
      ((idle roundabout 2).outcomes onceAround).map (fun o => Event.stepCount o.events) =
        [1, 2, 1, 2, 0, 1] ∧
      ((idle roundabout 1).outcomes onceAround).map Outcome.tripped =
        [false, true, false, false, false, false] := by
  have hle : 2 ≤ 10000 := by decide
  have hruns : ∀ o ∈ (idle roundabout 2).outcomes onceAround, o.tripped = false := by decide
  obtain ⟨hsame, hcount⟩ := limit_transparent roundabout hle onceAround
  exact ⟨⟨hle, hruns⟩, hsame hruns, hcount, by decide, by decide⟩

end Playback.Engine

end BranchingStory
