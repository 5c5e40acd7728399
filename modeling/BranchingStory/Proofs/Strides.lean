import BranchingStory.Document.Basic
import BranchingStory.Proofs.Calls
import BranchingStory.Proofs.Perform
import Mathlib

/-!
# How far a walk goes

A walk makes one stride after the other: it executes a step and goes on from where that step leads.
How many strides it makes is settled by the story, the scene and the place alone, so the steps that
are executed (`lt_stepCount_walkFrom_iff`) can be held against the limit (`tripped_walk_iff`). A walk
that needs more steps than the limit fails, as it should. But a walk notices that there is no
further step only when it is about to execute one, and by then the limit may be used up: so a walk
whose last step is just the last one that the limit allows fails too, unless that step ends the walk
by itself.

What a walk with a budget comes to depends on its first step (`setsOut_walkFrom`). All else about
budgets is read off this one case distinction, by induction on the budget.
-/

namespace BranchingStory

open Playback

namespace Playback

/-- Whether an event is the execution of a step. -/
def Event.isStep : Event → Bool
  | executing _ _ _ => true
  | _ => false

/-- How many steps are executed in a journal. -/
def Event.stepCount (events : List Event) : Nat :=
  events.countP isStep

@[simp] theorem Event.stepCount_append (first second : List Event) :
    stepCount (first ++ second) = stepCount first + stepCount second :=
  List.countP_append

/-- Whether a call fails because a walk needs more steps than the limit. -/
def Outcome.tripped (o : Outcome) : Bool :=
  match o.result with
  | .error (.limitExceeded _ _) => true
  | _ => false

/-- The engine with another limit. -/
def Engine.withLimit (e : Engine) (limit : Nat) : Engine :=
  { e with limit }

@[simp] theorem Outcome.tripped_after (o : Outcome) (events : List Event) :
    (o.after events).tripped = o.tripped := rfl

end Playback

/-- Of what a step does, its execution alone counts. -/
theorem Story.stepCount_record (story : Story) (scene : Scene) (place : Cursor) (step : Step) :
    Event.stepCount (story.record scene place step) = 1 := by
  have hrest : Event.stepCount (story.perform scene place step).events = 0 := by
    refine List.countP_eq_zero.2 fun event h => ?_
    cases tells_of_mem_perform h <;> simp [Event.isStep]
  show List.countP Event.isStep (.executing place step scene.vars :: _) = 1
  rw [List.countP_cons_of_pos rfl]
  exact congrArg (· + 1) hrest

namespace Story

variable {story : Story} {scene scene' scene'' : Scene} {place place' place'' : Cursor} {n : Nat}

/-- A step is executed, and the walk goes on from another place. -/
inductive Stride (story : Story) (scene : Scene) (place : Cursor) : Scene → Cursor → Prop
  | next {step : Step} (hs : story.stepAt? place = some step)
      (hm : (story.perform scene place step).move = .next) :
    Stride story scene place (story.perform scene place step).scene place.next
  | goTo {step : Step} {node : String} (hs : story.stepAt? place = some step)
      (hm : (story.perform scene place step).move = .goTo node) :
    Stride story scene place (story.perform scene place step).scene (.first node)

/-- A walk goes on after that many steps, and finds a step where it comes to, or none. -/
inductive Finds (story : Story) : Nat → Scene → Cursor → Option Step → Prop
  | here (scene : Scene) (place : Cursor) : Finds story 0 scene place (story.stepAt? place)
  | stride {n : Nat} {scene scene' : Scene} {place place' : Cursor} {found : Option Step}
      (h : story.Stride scene place scene' place') (hrest : Finds story n scene' place' found) :
    Finds story (n + 1) scene place found

theorem Stride.exists_step (h : story.Stride scene place scene' place') :
    ∃ step, story.stepAt? place = some step := by
  cases h with
  | next hs _ | goTo hs _ => exact ⟨_, hs⟩

/-- There is one way to go on. -/
theorem Stride.unique (h : story.Stride scene place scene' place')
    (h' : story.Stride scene place scene'' place'') : scene'' = scene' ∧ place'' = place' := by
  cases h with
  | next hs hm =>
    cases h' with
    | next hs' _ =>
      obtain rfl := Option.some.inj (hs.symm.trans hs')
      exact ⟨rfl, rfl⟩
    | goTo hs' hm' =>
      obtain rfl := Option.some.inj (hs.symm.trans hs')
      exact absurd (hm.symm.trans hm') Move.noConfusion
  | goTo hs hm =>
    cases h' with
    | next hs' hm' =>
      obtain rfl := Option.some.inj (hs.symm.trans hs')
      exact absurd (hm.symm.trans hm') Move.noConfusion
    | goTo hs' hm' =>
      obtain rfl := Option.some.inj (hs.symm.trans hs')
      obtain rfl := Move.goTo.inj (hm.symm.trans hm')
      exact ⟨rfl, rfl⟩

theorem not_stride_of_none (hs : story.stepAt? place = none) :
    ¬ story.Stride scene place scene' place' := by
  intro h
  obtain ⟨step, hs'⟩ := h.exists_step
  exact absurd (hs'.symm.trans hs) (Option.some_ne_none step)

theorem finds_zero_iff {found : Option Step} :
    story.Finds 0 scene place found ↔ story.stepAt? place = found := by
  constructor
  · rintro ⟨⟩
    rfl
  · rintro rfl
    exact .here scene place

/-- After one stride, a walk finds what it finds from there. -/
theorem finds_succ_iff (h : story.Stride scene place scene' place') {found : Option Step} :
    story.Finds (n + 1) scene place found ↔ story.Finds n scene' place' found := by
  refine ⟨fun hfinds => ?_, .stride h⟩
  cases hfinds with
  | stride h' hrest =>
    obtain ⟨rfl, rfl⟩ := h.unique h'
    exact hrest

/-- Without a stride, a walk does not come far. -/
theorem not_finds_succ (h : ∀ scene' place', ¬ story.Stride scene place scene' place')
    {found : Option Step} : ¬ story.Finds (n + 1) scene place found := by
  intro hfinds
  cases hfinds with
  | stride h' _ => exact h _ _ h'

end Story

namespace Playback.Engine

variable {e : Engine} {place : Cursor} {scene : Scene} {budget n : Nat}

/-- What a walk that may execute a step comes to. There may be no step; or the step is the last one,
which ends the walk without an error of the limit; or the rest of the walk follows. -/
inductive SetsOut (e : Engine) (place : Cursor) (budget : Nat) : Outcome → Prop
  | off {event : Event} (hs : e.story.stepAt? place = none) (he : event.isStep = false) :
    SetsOut e place budget ((e.haltedAt place).done.after [event])
  | last {step : Step} {o : Outcome} (hs : e.story.stepAt? place = some step)
      (hstay : ∀ scene' place', ¬ e.story.Stride e.scene place scene' place')
      (hcount : Event.stepCount o.events = 1) (ht : o.tripped = false) :
    SetsOut e place budget o
  | on {scene' : Scene} {place' : Cursor} {events : List Event}
      (h : e.story.Stride e.scene place scene' place') (hcount : Event.stepCount events = 1) :
    SetsOut e place budget ((walkFrom budget { e with scene := scene' } place').after events)

theorem setsOut_walkFrom (e : Engine) (place : Cursor) (budget : Nat) :
    e.SetsOut place budget (walkFrom (budget + 1) e place) := by
  rw [walkFrom]
  cases hr : e.story.nodes.resolve place.node with
  | error problem => exact .off (by rw [Story.stepAt?, hr]) rfl
  | ok steps =>
    dsimp only
    cases hstep : steps[place.index]? with
    | none => exact .off (by rw [Story.stepAt?, hr]; exact hstep) rfl
    | some step =>
      have hs : e.story.stepAt? place = some step := Story.stepAt?_eq_some_iff.2 ⟨steps, hr, hstep⟩
      have hcount := e.story.stepCount_record e.scene place step
      rw [Story.record] at hcount
      -- A move that is neither to the next step nor to another node ends the walk.
      have hstay (hn : (e.story.perform e.scene place step).move ≠ .next)
          (hg : ∀ node, (e.story.perform e.scene place step).move ≠ .goTo node) :
          ∀ scene' place', ¬ e.story.Stride e.scene place scene' place' := by
        intro scene' place' h
        cases h with
        | next hs' hm =>
          obtain rfl := Option.some.inj (hs.symm.trans hs')
          exact hn hm
        | goTo hs' hm =>
          obtain rfl := Option.some.inj (hs.symm.trans hs')
          exact hg _ hm
      dsimp only
      cases hm : (e.story.perform e.scene place step).move with
      | next => exact .on (.next hs hm) hcount
      | goTo node => exact .on (.goTo hs hm) hcount
      | pause status | halt =>
        refine .last hs (hstay (by simp [hm]) (by simp [hm])) ?_ rfl
        dsimp only
        rwa [done_after]
      | fail error =>
        refine .last hs (hstay (by simp [hm]) (by simp [hm])) ?_ rfl
        dsimp only
        rw [fail_after, Event.stepCount_append, hcount]
        rfl

/-- A walk is stopped if it is still going when its budget is spent. -/
theorem tripped_walkFrom_iff : (walkFrom budget e place).tripped = true ↔
    ∃ found, e.story.Finds budget e.scene place found := by
  induction budget generalizing e place with
  | zero => exact ⟨fun _ => ⟨_, .here e.scene place⟩, fun _ => rfl⟩
  | succ budget ih =>
    have hout := e.setsOut_walkFrom place budget
    generalize walkFrom (budget + 1) e place = o at hout
    cases hout with
    | off hs _ =>
      refine ⟨fun h => Bool.noConfusion h, ?_⟩
      rintro ⟨_, h⟩
      exact absurd h (Story.not_finds_succ fun _ _ => Story.not_stride_of_none hs)
    | last _ hstay _ ht =>
      refine ⟨fun h => absurd (ht.symm.trans h) Bool.noConfusion, ?_⟩
      rintro ⟨_, h⟩
      exact absurd h (Story.not_finds_succ hstay)
    | on h _ =>
      rw [Outcome.tripped_after, ih]
      exact exists_congr fun _ => (Story.finds_succ_iff h).symm

/-- A walk executes more steps than a number if it may, and finds another one after so many. -/
theorem lt_stepCount_walkFrom_iff : n < Event.stepCount (walkFrom budget e place).events ↔
    n < budget ∧ ∃ step, e.story.Finds n e.scene place (some step) := by
  -- With each stride the walk is one step nearer to the number, and one unit of the budget is spent.
  induction budget generalizing e place n with
  | zero => exact iff_of_false (Nat.not_lt_zero n) fun h => Nat.not_lt_zero n h.1
  | succ budget ih =>
    have hout := e.setsOut_walkFrom place budget
    generalize walkFrom (budget + 1) e place = o at hout
    cases hout with
    | @off event hs he =>
      have hcount : Event.stepCount [event] = 0 :=
        List.countP_eq_zero.2 (List.forall_mem_singleton.2 (he ▸ Bool.noConfusion))
      rw [done_after, hcount]
      refine iff_of_false (Nat.not_lt_zero n) ?_
      rintro ⟨_, step, h⟩
      cases n with
      | zero => exact Option.some_ne_none step ((Story.finds_zero_iff.1 h).symm.trans hs)
      | succ n => exact Story.not_finds_succ (fun _ _ => Story.not_stride_of_none hs) h
    | @last step o hs hstay hcount _ =>
      rw [hcount]
      cases n with
      | zero =>
        exact iff_of_true Nat.one_pos ⟨budget.succ_pos, step, Story.finds_zero_iff.2 hs⟩
      | succ n =>
        refine iff_of_false (by omega) ?_
        rintro ⟨_, step, h⟩
        exact Story.not_finds_succ hstay h
    | on h hcount =>
      rw [Outcome.after, Event.stepCount_append, hcount]
      cases n with
      | zero =>
        obtain ⟨step, hs⟩ := h.exists_step
        exact iff_of_true (by omega) ⟨budget.succ_pos, step, Story.finds_zero_iff.2 hs⟩
      | succ n =>
        have hlt (m : Nat) : n + 1 < 1 + m ↔ n < m := by omega
        rw [hlt, ih, Nat.add_lt_add_iff_right]
        exact and_congr_right fun _ => exists_congr fun _ => (Story.finds_succ_iff h).symm

/-- A walk that runs out of steps within its budget is halted without an error. -/
theorem walkFrom_of_finds_none (h : e.story.Finds n e.scene place none) (hn : n < budget) :
    (walkFrom budget e place).result = .ok () ∧
      (walkFrom budget e place).engine.status = .halted := by
  induction budget generalizing e place n with
  | zero => exact absurd hn (Nat.not_lt_zero n)
  | succ budget ih =>
    have hout := e.setsOut_walkFrom place budget
    generalize walkFrom (budget + 1) e place = o at hout
    cases hout with
    | off _ _ => exact ⟨rfl, rfl⟩
    | @last step _ hs hstay _ _ =>
      cases n with
      | zero =>
        have hnone := Story.finds_zero_iff.1 h
        exact absurd (hs.symm.trans hnone) (Option.some_ne_none step)
      | succ n => exact absurd h (Story.not_finds_succ hstay)
    | on hstride _ =>
      cases n with
      | zero => exact absurd hstride (Story.not_stride_of_none (Story.finds_zero_iff.1 h))
      | succ n => exact ih ((Story.finds_succ_iff hstride).1 h) (Nat.lt_of_succ_lt_succ hn)

/-! ## The limit -/

/-- After a number of steps a walk comes to another one exactly if it executes more steps as soon as
a limit lets it. -/
theorem exists_finds_some_iff : (∃ step, e.story.Finds n e.scene place (some step)) ↔
    ∃ limit, n < Event.stepCount ((e.withLimit limit).walk place).events := by
  constructor
  · intro h
    exact ⟨n + 1, lt_stepCount_walkFrom_iff.2 ⟨Nat.lt_succ_self n, h⟩⟩
  · rintro ⟨limit, h⟩
    exact (lt_stepCount_walkFrom_iff.1 h).2

/-- A walk fails for its limit exactly if it goes on after as many steps, whether it finds another
step to execute or none; if it runs out of steps before, it is halted and has not failed. -/
theorem tripped_walk_iff (e : Engine) (place : Cursor) :
    ((e.walk place).tripped = true ↔
      (∃ limit, e.limit < Event.stepCount ((e.withLimit limit).walk place).events) ∨
        e.story.Finds e.limit e.scene place none) ∧
      ∀ n < e.limit, e.story.Finds n e.scene place none →
        (e.walk place).result = .ok () ∧ (e.walk place).engine.status = .halted := by
  refine ⟨?_, fun n hn h => walkFrom_of_finds_none (e := e.withStatus .running) h hn⟩
  rw [← exists_finds_some_iff]
  refine (tripped_walkFrom_iff (e := e.withStatus .running)).trans ⟨?_, ?_⟩
  · rintro ⟨_ | step, h⟩
    · exact .inr h
    · exact .inl ⟨step, h⟩
  · rintro (⟨step, h⟩ | h)
    · exact ⟨some step, h⟩
    · exact ⟨none, h⟩

/-- A document with a single step. -/
def singleStep : String :=
  "\x7b\"start\":\"A\",\"variables\":\x7b\x7d,\"nodes\":\x7b\"A\":[" ++
    "\x7b\"kind\":\"set_variable\",\"key\":\"x\",\"value\":true\x7d]\x7d\x7d"

/-- The story that the document describes. -/
def singleStepStory : Story where
  start := "A"
  vars := some []
  nodes := .group [("A", .leaf [.setVariable (some "x") (some (.literal (.bool true)))])]
  characters := []
  places := []

/-- Its only step leads to where there is none. -/
theorem stride_of_singleStep (limit : Nat) :
    singleStepStory.Stride (idle singleStepStory limit).scene (.first "A")
      ⟨[("x", .bool true)], Stage.empty⟩ ⟨"A", 1⟩ := by
  have hs : singleStepStory.stepAt? (.first "A") =
      some (.setVariable (some "x") (some (.literal (.bool true)))) := rfl
  exact .next hs rfl

/-- With a limit of two steps, the walk through the story runs out of steps after the first. -/
theorem tripped_walk_iff_of_singleStep :
    (1 < 2 ∧ singleStepStory.Finds 1 (idle singleStepStory 2).scene (.first "A") none) ∧
      ((idle singleStepStory 2).walk (.first "A")).result = .ok () ∧
      ((idle singleStepStory 2).walk (.first "A")).engine.status = .halted := by
  have hlt : 1 < 2 := by decide
  have hfinds : singleStepStory.Finds 1 (idle singleStepStory 2).scene (.first "A") none :=
    .stride (stride_of_singleStep 2) (.here _ _)
  exact ⟨⟨hlt, hfinds⟩, (tripped_walk_iff (idle singleStepStory 2) (.first "A")).2 1 hlt hfinds⟩

/-- With a limit of one step, the story cannot be started, although it has no second step that any
limit would let the walk execute. -/
theorem tripped_of_singleStep :
    Story.load singleStep .own = .ok singleStepStory ∧
      (idle singleStepStory 1).start.tripped = true ∧
      singleStepStory.Finds 1 (idle singleStepStory 1).scene (.first "A") none ∧
      ∀ limit, Event.stepCount (idle singleStepStory limit).start.events ≤ 1 := by
  refine ⟨by cbv, by decide, .stride (stride_of_singleStep 1) (.here _ _), fun limit => ?_⟩
  have hr : singleStepStory.nodes.resolve "A" =
      .ok [.setVariable (some "x") (some (.literal (.bool true)))] := rfl
  have hstart := start_of_resolved (e := idle singleStepStory limit) rfl hr
  have hstarting : Event.stepCount [.starting (idle singleStepStory limit).story.start] = 0 := rfl
  rw [hstart, Outcome.after, Event.stepCount_append, hstarting, Nat.zero_add]
  refine Nat.le_of_not_lt fun h => ?_
  obtain ⟨_, step, hfinds⟩ := lt_stepCount_walkFrom_iff.1 h
  have hrest := (Story.finds_succ_iff (stride_of_singleStep limit)).1 hfinds
  exact Option.some_ne_none step (Story.finds_zero_iff.1 hrest).symm

end Playback.Engine

end BranchingStory
