import BranchingStory.Playback.Run

/-!
# Walks

A walk executes one step after the other, so a property of walks follows from what it takes to go on
after one step: `WalkRule` lists the ways in which a walk goes on or ends, and `Story.walk_spec`
puts them together.
-/

namespace BranchingStory

open Playback

variable {story : Story}

/-- There is a step at a place if its node is there and has that many steps. -/
theorem Story.stepAt?_eq_some_iff {place : Cursor} {step : Step} :
    story.stepAt? place = some step ↔
      ∃ steps, story.nodes.resolve place.node = .ok steps ∧ steps[place.index]? = some step := by
  rw [stepAt?]
  split <;> simp_all

/-- What happens when a step is executed. -/
def Story.record (story : Story) (scene : Scene) (place : Cursor) (step : Step) : List Event :=
  .executing place step scene.vars :: (story.perform scene place step).events

/-- The walk through a story from a place, in a scene, with a limit. -/
def Story.walk (story : Story) (limit : Nat) (scene : Scene) (place : Cursor) : Outcome :=
  Engine.walkFrom limit ⟨story, limit, scene, .running, none⟩ place

namespace Playback

namespace Outcome

theorem after_after (o : Outcome) (first second : List Event) :
    (o.after second).after first = o.after (first ++ second) := by
  simp [after]

end Outcome

namespace Engine

@[simp] theorem done_after (e : Engine) (events : List Event) :
    e.done.after events = ⟨e, .ok (), events⟩ := by
  simp [done, Outcome.after]

@[simp] theorem fail_after (e : Engine) (error : EngineError) (events : List Event) :
    (e.fail error).after events = ⟨e, .error error, events⟩ := by
  simp [fail, Outcome.after]

end Engine

/-! ## Walks -/

/-- If `P` holds when a walk comes to a place, then `Q` holds when the walk is over: in every way in
which the walk goes on or ends. The events are all since the call was made. -/
structure WalkRule (story : Story) (limit : Nat) (P : List Event → Scene → Cursor → Prop)
    (Q : Outcome → Prop) : Prop where
  /-- The walk may not execute another step. -/
  tripped {events : List Event} {scene : Scene} {place : Cursor} (h : P events scene place) :
    Q ⟨⟨story, limit, scene, .halted, some place⟩, .error (.limitExceeded limit (some place)),
      events⟩
  /-- The node is not there. -/
  lost {events : List Event} {scene : Scene} {place : Cursor} {problem : NodeTree.AddressProblem}
    (h : P events scene place) (hr : story.nodes.resolve place.node = .error problem) :
    Q ⟨⟨story, limit, scene, .halted, some place⟩, .ok (), events ++ [.lost problem]⟩
  /-- The steps of the node are used up. -/
  exhausted {events : List Event} {scene : Scene} {place : Cursor} {steps : List Step}
    (h : P events scene place) (hr : story.nodes.resolve place.node = .ok steps)
    (hlen : steps.length ≤ place.index) :
    Q ⟨⟨story, limit, scene, .halted, some place⟩, .ok (),
      events ++ [.exhausted place.node steps.length]⟩
  /-- A step leads to the next one. -/
  next {events : List Event} {scene : Scene} {place : Cursor} {step : Step}
    (h : P events scene place) (hs : story.stepAt? place = some step)
    (hm : (story.perform scene place step).move = .next) :
    P (events ++ story.record scene place step) (story.perform scene place step).scene place.next
  /-- A step leads to another node. -/
  goTo {events : List Event} {scene : Scene} {place : Cursor} {step : Step} {node : String}
    (h : P events scene place) (hs : story.stepAt? place = some step)
    (hm : (story.perform scene place step).move = .goTo node) :
    P (events ++ story.record scene place step) (story.perform scene place step).scene
      (.first node)
  /-- After a step the story waits or has ended. -/
  pause {events : List Event} {scene : Scene} {place : Cursor} {step : Step} {status : Status}
    (h : P events scene place) (hs : story.stepAt? place = some step)
    (hm : (story.perform scene place step).move = .pause status) :
    Q ⟨⟨story, limit, (story.perform scene place step).scene, status, some place⟩, .ok (),
      events ++ story.record scene place step⟩
  /-- After a step there is nowhere to go. -/
  halt {events : List Event} {scene : Scene} {place : Cursor} {step : Step}
    (h : P events scene place) (hs : story.stepAt? place = some step)
    (hm : (story.perform scene place step).move = .halt) :
    Q ⟨⟨story, limit, (story.perform scene place step).scene, .halted, some place⟩, .ok (),
      events ++ story.record scene place step⟩
  /-- A function of the author fails in a step. -/
  fail {events : List Event} {scene : Scene} {place : Cursor} {step : Step} {error : AuthorError}
    (h : P events scene place) (hs : story.stepAt? place = some step)
    (hm : (story.perform scene place step).move = .fail error) :
    Q ⟨⟨story, limit, (story.perform scene place step).scene, .halted, some place⟩,
      .error (.author error), events ++ story.record scene place step ++ [.failed place error]⟩

namespace Engine

/-- What an engine was doing before a walk, and where, does not matter for the walk. -/
theorem walkFrom_congr {limit : Nat} (budget : Nat) {scene : Scene} {status status' : Status}
    {cursor cursor' : Option Cursor} (place : Cursor) :
    walkFrom budget ⟨story, limit, scene, status, cursor⟩ place =
      walkFrom budget ⟨story, limit, scene, status', cursor'⟩ place := by
  induction budget generalizing scene place with
  | zero => rfl
  | succ budget ih =>
    simp only [walkFrom]
    cases story.nodes.resolve place.node with
    | error problem => rfl
    | ok steps =>
      dsimp only
      cases steps[place.index]? with
      | none => rfl
      | some step =>
        dsimp only
        cases (story.perform scene place step).move with
        | next =>
          dsimp only
          rw [ih]
        | goTo node =>
          dsimp only
          rw [ih]
        | pause status => rfl
        | halt => rfl
        | fail error => rfl

/-- The walk of an engine is a walk through its story. -/
theorem walk_eq (e : Engine) (place : Cursor) :
    e.walk place = e.story.walk e.limit e.scene place :=
  walkFrom_congr e.limit place

/-- A walk that finds no step halts where it is, and shows nothing. -/
theorem walkFrom_succ_of_none {e : Engine} {place : Cursor} (budget : Nat)
    (hs : e.story.stepAt? place = none) :
    ∃ events, Event.commands events = [] ∧
      walkFrom (budget + 1) e place = (e.haltedAt place).done.after events := by
  rw [Story.stepAt?] at hs
  rw [walkFrom]
  cases hr : e.story.nodes.resolve place.node with
  | error problem => exact ⟨[.lost problem], rfl, rfl⟩
  | ok steps =>
    rw [hr] at hs
    have hnone : steps[place.index]? = none := hs
    dsimp only
    rw [hnone]
    exact ⟨[.exhausted place.node steps.length], rfl, rfl⟩

/-- A walk that finds a step executes it and goes on as the step says. -/
theorem walkFrom_succ_of_stepAt? {e : Engine} {place : Cursor} {step : Step} (budget : Nat)
    (hs : e.story.stepAt? place = some step) :
    walkFrom (budget + 1) e place =
      Outcome.after (e.story.record e.scene place step)
        (let next := { e with scene := (e.story.perform e.scene place step).scene }
        match (e.story.perform e.scene place step).move with
        | .next => walkFrom budget next place.next
        | .goTo node => walkFrom budget next (.first node)
        | .pause status => ((next.placedAt place).withStatus status).done
        | .halt => (next.haltedAt place).done
        | .fail error =>
          ((next.haltedAt place).fail (.author error)).after [.failed place error]) := by
  obtain ⟨steps, hr, hstep⟩ := Story.stepAt?_eq_some_iff.1 hs
  rw [walkFrom, hr]
  dsimp only
  rw [hstep]
  dsimp only
  cases (e.story.perform e.scene place step).move with
  | fail error =>
    rw [Outcome.after_after]
    rfl
  | next | goTo node | pause status | halt => rfl

theorem walkFrom_spec {limit : Nat} {P : List Event → Scene → Cursor → Prop} {Q : Outcome → Prop}
    (rule : WalkRule story limit P Q) (budget : Nat) {scene : Scene} {status : Status}
    {cursor : Option Cursor} {place : Cursor} {events : List Event} (h : P events scene place) :
    Q ((walkFrom budget ⟨story, limit, scene, status, cursor⟩ place).after events) := by
  -- The events so far are part of the invariant, so the induction goes over all of them.
  induction budget generalizing scene place events with
  | zero =>
    rw [walkFrom, fail_after]
    exact rule.tripped h
  | succ budget ih =>
    rw [walkFrom]
    split
    · next problem hr =>
      rw [Outcome.after_after, done_after]
      exact rule.lost h hr
    · next steps hr =>
      split
      · next hn =>
        rw [Outcome.after_after, done_after]
        exact rule.exhausted h hr (List.getElem?_eq_none_iff.1 hn)
      · next step hstep =>
        have hs : story.stepAt? place = some step := Story.stepAt?_eq_some_iff.2 ⟨steps, hr, hstep⟩
        dsimp only
        split
        · next hm =>
          rw [Outcome.after_after]
          exact ih (rule.next h hs hm)
        · next node hm =>
          rw [Outcome.after_after]
          exact ih (rule.goTo h hs hm)
        · next status hm =>
          rw [Outcome.after_after, done_after]
          exact rule.pause h hs hm
        · next hm =>
          rw [Outcome.after_after, done_after]
          exact rule.halt h hs hm
        · next error hm =>
          rw [Outcome.after_after, fail_after, ← List.append_assoc]
          exact rule.fail h hs hm

end Engine

end Playback

theorem Story.walk_spec {limit : Nat} {P : List Event → Scene → Cursor → Prop} {Q : Outcome → Prop}
    (rule : WalkRule story limit P Q) {scene : Scene} {place : Cursor} (events : List Event)
    (h : P events scene place) : Q ((story.walk limit scene place).after events) :=
  Engine.walkFrom_spec rule limit h

end BranchingStory
