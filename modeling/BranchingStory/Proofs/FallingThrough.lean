import BranchingStory.Proofs.Itinerary
import BranchingStory.Proofs.Reviewed
import Mathlib

/-!
# Running out of steps

If the steps of a story lead somewhere, then a call halts the engine without an error only by a walk
that runs out of steps, and the last stop of the playthrough has led past the end of the node
(`Engine.RunsOut`). If a review has no findings at all, few stops lead there: nodes have steps, and
the last one hands the story on. What is left are a branch that falls through and an option without
a target (`fellThrough_of_halted`).
-/

namespace BranchingStory

open Playback Review

/-! ## Reviews without findings -/

namespace Review

variable {story : Story} {place : Cursor} {step : Step} {node : String}

theorem not_fault_of_clean (ho : story.nodes.Ordered) (hd : story.nodes.DotFree)
    (hclean : review story = []) (hs : story.stepAt? place = some step) (complaint : Complaint) :
    ¬ story.Fault step complaint := by
  intro hf
  obtain ⟨f, hmem, -⟩ := announce_of_fault ho hd hs hf
  rw [hclean] at hmem
  exact absurd hmem List.not_mem_nil

theorem ne_nil_of_clean (hclean : review story = []) {steps : List Step}
    (hr : story.nodes.resolve node = .ok steps) : steps ≠ [] := by
  rintro rfl
  have hin : ⟨.warning, .node node, .noSteps⟩ ∈ leafFindings story (node, []) :=
    List.mem_append_left _ (List.mem_singleton_self _)
  have hall : ⟨.warning, .node node, .noSteps⟩ ∈ story.nodes.leaves.flatMap (leafFindings story) :=
    List.mem_flatMap.2 ⟨_, NodeTree.mem_leaves_of_resolve hr, hin⟩
  have hmem : ⟨.warning, .node node, .noSteps⟩ ∈ review story := by
    simp only [review, List.mem_append]
    exact .inl (.inl (.inl (.inr hall)))
  rw [hclean] at hmem
  exact absurd hmem List.not_mem_nil

theorem isTerminator_of_clean (hclean : review story = []) {before : List Step}
    (hr : story.nodes.resolve node = .ok (before ++ [step])) : step.isTerminator = true := by
  by_contra hn
  have hend : endFinding? (node, before ++ [step]) =
      some ⟨.warning, .node node, .abruptEnd step.kind⟩ := by
    simp [endFinding?, hn]
  have hmem : ⟨.warning, .node node, .abruptEnd step.kind⟩ ∈ review story := by
    simp only [review, List.mem_append]
    exact .inr (List.mem_filterMap.2 ⟨_, NodeTree.mem_leaves_of_resolve hr, hend⟩)
  rw [hclean] at hmem
  exact absurd hmem List.not_mem_nil

end Review

namespace Story

variable {story : Story} {place : Cursor} {step : Step} {node : String} {steps : List Step}

/-- The step before the end of a node is its last one. -/
theorem exists_concat_of_next (hr : story.nodes.resolve node = .ok steps)
    (hs : story.stepAt? place = some step) (hn : place.next = ⟨node, steps.length⟩) :
    ∃ before, steps = before ++ [step] ∧ place = ⟨node, before.length⟩ := by
  obtain ⟨node', index⟩ := place
  obtain ⟨rfl, hindex⟩ := Cursor.mk.inj hn
  obtain ⟨found, hok, hstep⟩ := stepAt?_eq_some_iff.1 hs
  obtain rfl := Except.ok.inj (hr.symm.trans hok)
  have hindex : index + 1 = steps.length := hindex
  have hlast : steps.getLast? = some step := by
    rw [List.getLast?_eq_getElem?, ← hindex, Nat.add_sub_cancel]
    exact hstep
  obtain ⟨before, rfl⟩ := List.getLast?_eq_some_iff.1 hlast
  rw [List.length_append, List.length_singleton] at hindex
  exact ⟨before, rfl, by rw [Nat.add_right_cancel hindex]⟩

/-- What hands playback on although it ends a node as it should is a branch without a test or a
choice without options. -/
theorem fault_of_handsOn (story : Story) {vars : Variables} (ht : step.isTerminator = true)
    (hh : step.HandsOn vars) : ∃ complaint, story.Fault step complaint := by
  cases step with
  | branch test target otherwise =>
    obtain rfl : test = none := hh
    exact ⟨_, .noTest target otherwise⟩
  | choice prompt options =>
    obtain rfl : options = [] := hh
    exact ⟨_, .noOptions prompt⟩
  | jump target => exact hh.elim
  | ending => exact hh.elim
  | _ => exact absurd ht (by simp [Step.isTerminator])

end Story

/-- A stop falls through a node: it is a branch without another node whose test came out false, or
an option without a target that was taken, and it is at the last step of the node. -/
inductive Playback.Stop.FallsThrough (node : String) (steps : List Step) : Stop → Prop
  | branch {before : List Step} {test : Test} {target : Option String} {vars : Variables}
      (hs : steps = before ++ [.branch (some test) target none]) (ht : test vars = .ok false) :
    FallsThrough node steps
      (.step ⟨node, before.length⟩ (.branch (some test) target none) vars)
  | option {before : List Step} {prompt : Option String} {options : List ChoiceOption}
      {index : Nat} {o : ChoiceOption} (hs : steps = before ++ [.choice prompt options])
      (hi : options[index]? = some o) (ht : o.target = none) :
    FallsThrough node steps (.option ⟨node, before.length⟩ index o)

namespace Playback.Engine

variable {story : Story} {e : Engine}

/-- A run has halted the engine with a call that led to some outcome: the engine had not halted
before, unless the call restarts it, and it has not been restarted since. -/
def HaltedBy (e : Engine) (calls : List Call) (o : Outcome) : Prop :=
  ∃ before c after, calls = before ++ c :: after ∧ .restart ∉ after ∧
    ((e.play before).status = .halted → c = .restart) ∧
    o = (e.play before).call c ∧ o.engine.status = .halted

theorem exists_haltedBy (he : e.status ≠ .halted) (calls : List Call)
    (hh : (e.play calls).status = .halted) : ∃ o, e.HaltedBy calls o := by
  induction calls using List.reverseRecOn with
  | nil => exact absurd hh he
  | append_singleton calls c ih =>
    rw [play_concat] at hh
    by_cases hc : (e.play calls).status = .halted ∧ c ≠ .restart
    · -- The engine had halted before the last call, so an earlier call has halted it.
      obtain ⟨o, before, c', after, rfl, hafter, hrest⟩ := ih hc.1
      refine ⟨o, before, c', after ++ [c], by simp, ?_, hrest⟩
      simp [hafter, hc.2.symm]
    · have hfirst : (e.play calls).status = .halted → c = .restart := by
        intro h
        by_contra hne
        exact hc ⟨h, hne⟩
      exact ⟨_, calls, c, [], rfl, List.not_mem_nil, hfirst, rfl, hh⟩

/-- If a call halts the engine without an error, then the engine is just after the last step of a
node, and the stops made so far have led it there. -/
def RunsOut (story : Story) (before : List Stop) (o : Outcome) : Prop :=
  o.engine.status = .halted → o.result = .ok () →
    ∃ node steps, o.engine.cursor = some ⟨node, steps.length⟩ ∧
      story.nodes.resolve node = .ok steps ∧ ∀ step vars,
        story.Follows (before ++ Event.stops o.events) (.step ⟨node, steps.length⟩ step vars)

theorem runsOutRule (hconn : story.Connected) (limit : Nat) (before : List Stop) :
    WalkRule story limit
      (fun events _ place => Underway story before events place ∧ story.Holds place)
      (RunsOut story before) where
  tripped _ _ hok := absurd hok (by simp)
  lost h hr := by
    obtain ⟨steps, hok, -⟩ := h.2
    exact absurd (hr.symm.trans hok) (by simp)
  exhausted {events scene place steps} h hr hlen := by
    obtain ⟨found, hok, hle⟩ := h.2
    obtain rfl := Except.ok.inj (hr.symm.trans hok)
    obtain ⟨node, index⟩ := place
    obtain rfl : index = steps.length := Nat.le_antisymm hle hlen
    intro _ _
    refine ⟨node, steps, rfl, hr, ?_⟩
    rw [Event.stops_concat_of_none _ rfl]
    exact h.1.follows
  next h hs hm := ⟨h.1.record (Story.leadsTo_of_next hm), Story.holds_next hs⟩
  goTo h _ hm := ⟨h.1.record (Story.leadsTo_of_goTo hm).1, Story.holds_goTo hm⟩
  pause _ _ hm hh := absurd hh (Story.awaits_of_pause hm).ne_halted
  halt {events scene place step} _ hs hm := by
    obtain ⟨complaint, hf, ht⟩ := Story.fault_of_halt hm
    exact absurd hf (hconn place step complaint hs ht)
  fail _ _ _ _ hok := absurd hok (by simp)

/-- In a story whose steps lead somewhere, a call that halts the engine without an error has run out
of steps. -/
theorem Called.runsOut {c : Call} {o : Outcome} {before : List Stop} (hcalled : e.Called c o)
    (h : e.Settled) (hconn : e.story.Connected) (hc : e.status = .halted → c = .restart)
    (hi : e.story.Itinerary before) (hr : c = .restart → before = [])
    (hp : c ≠ .restart → e.Pending before) : RunsOut e.story before o := by
  cases hcalled with
  | refused _ => exact fun _ hok => absurd hok (by simp [fail])
  | ignored hsignal _ => exact fun hh _ => absurd (hc hh) (Call.ne_restart_of_signal hsignal)
  | unrestarted _ => exact fun _ hok => absurd hok (by simp)
  | effectFailed _ _ _ => exact fun _ hok => absurd hok (by simp)
  | @stranded index place options o vars target problem ho hindex ha ht hresolve =>
    obtain ⟨step, hs, hf⟩ := fault_of_offers ho hindex ht hresolve
    exact absurd hf (hconn place step _ hs rfl)
  | walked hd =>
    exact Story.walk_spec (runsOutRule hconn e.limit before) _
      ⟨hd.underway hi hr hp, (hd.holds h).1⟩

end Playback.Engine

namespace Playback.Playthrough

variable {story : Story} {p : Playthrough}

/-- A playthrough has fallen through a node: the engine is just after the last step of the node, and
there the last stop has fallen through. -/
def FellThrough (story : Story) (p : Playthrough) : Prop :=
  ∃ node steps stop, p.engine.cursor = some ⟨node, steps.length⟩ ∧
    story.nodes.resolve node = .ok steps ∧ steps ≠ [] ∧ p.stops.getLast? = some stop ∧
    stop.FallsThrough node steps

/-- The calls after the one that halted the engine add nothing to a playthrough. -/
theorem play_of_halted (hs : p.engine.status = .halted) {calls : List Engine.Call}
    (hc : .restart ∉ calls) :
    (p.play calls).engine = p.engine ∧ (p.play calls).stops = p.stops := by
  induction calls generalizing p with
  | nil => exact ⟨rfl, rfl⟩
  | cons c rest ih =>
    obtain ⟨hfirst, hrest⟩ := not_or.1 (mt List.mem_cons.2 hc)
    have hne : c ≠ .restart := fun heq => hfirst heq.symm
    have hengine : (p.call c).engine = p.engine := Engine.engine_call_of_halted hs hne
    have hstops : (p.call c).stops = p.stops := by
      refine stops_call_of_none hne ?_
      have hf : p.engine.status.isFinished = true := by rw [hs]; rfl
      cases c with
      | start =>
        show Event.stops p.engine.start.events = []
        rw [Engine.start_of_started (by simp [hs])]
        rfl
      | advance =>
        rw [Engine.call_of_finished rfl hf]
        rfl
      | choose index =>
        rw [Engine.call_of_finished rfl hf]
        rfl
      | restart => exact absurd rfl hne
    obtain ⟨hplayed, hsame⟩ := ih (hengine ▸ hs) hrest
    exact ⟨hplayed.trans hengine, hsame.trans hstops⟩

theorem exists_choice_of_mem_stops (h : Traveled story p) {place : Cursor} {index : Nat}
    {o : ChoiceOption} (hs : .option place index o ∈ p.stops) :
    ∃ prompt options, story.stepAt? place = some (.choice prompt options) ∧
      options[index]? = some o := by
  obtain ⟨event, hevent, hstop⟩ := List.mem_filterMap.1 hs
  cases event with
  | taken place' index' o' =>
    obtain ⟨rfl, rfl, rfl⟩ := Stop.option.inj (Option.some.inj hstop)
    exact h.bearsOut _ hevent
  | _ => exact absurd hstop (by simp [Event.stop?])

/-- A call that halts the engine without an error leads the playthrough past the end of a node. -/
theorem follows_of_halted (h : Traveled story p) (hconn : story.Connected) {c : Engine.Call}
    (hc : p.engine.status = .halted → c = .restart)
    (hh : (p.engine.call c).engine.status = .halted) (hok : (p.engine.call c).result = .ok ()) :
    ∃ node steps, (p.call c).engine.cursor = some ⟨node, steps.length⟩ ∧
      story.nodes.resolve node = .ok steps ∧ ∀ step vars,
        story.Follows (p.call c).stops (.step ⟨node, steps.length⟩ step vars) := by
  obtain ⟨rfl, hi, hp, hsettled, -⟩ := h
  by_cases hr : c = .restart
  · subst hr
    exact (p.engine.called .restart).runsOut hsettled hconn hc p.engine.story.itinerary_nil
      (fun _ => rfl) (fun hne => absurd rfl hne) hh hok
  · rw [stops_call p hr]
    exact (p.engine.called c).runsOut hsettled hconn hc hi (fun heq => absurd heq hr)
      (fun _ => hp) hh hok

/-- If a review has no findings, then a stop that leads past the end of a node falls through it. -/
theorem fellThrough_of_follows (h : Traveled story p) (ho : story.nodes.Ordered)
    (hd : story.nodes.DotFree) (hclean : review story = []) {node : String} {steps : List Step}
    (hcursor : p.engine.cursor = some ⟨node, steps.length⟩)
    (hr : story.nodes.resolve node = .ok steps) {step : Step} {vars : Variables}
    (hf : story.Follows p.stops (.step ⟨node, steps.length⟩ step vars)) :
    FellThrough story p := by
  have hne : steps ≠ [] := ne_nil_of_clean hclean hr
  -- The end of the node is not its start, so no stop that goes to the start of a node leads there.
  have hfirst : ∀ target, Cursor.first target ≠ ⟨node, steps.length⟩ := by
    intro target heq
    obtain ⟨-, hlen⟩ := Cursor.mk.inj heq
    exact hne (List.length_eq_zero_iff.1 hlen.symm)
  rcases hf with ⟨-, _, _, hstart⟩ | ⟨last, hlast, hleads⟩
  · exact absurd (Stop.step.inj hstart).1.symm (hfirst _)
  · have hin : last ∈ p.stops := List.mem_of_getLast? hlast
    refine ⟨node, steps, last, hcursor, hr, hne, hlast, ?_⟩
    generalize hplace : (⟨node, steps.length⟩ : Cursor) = place at hleads hfirst
    cases hleads with
    | @step before _ done _ vars' _ hleadsTo =>
      have hdone := stepAt?_of_mem_stops h hin
      cases hleadsTo with
      | jump _ | branchTrue _ _ | branchFalse _ _ => exact absurd rfl (hfirst _)
      | fallThrough ht =>
        obtain ⟨steps', rfl, rfl⟩ := Story.exists_concat_of_next hr hdone hplace.symm
        exact .branch rfl ht
      | handsOn hh =>
        obtain ⟨steps', rfl, rfl⟩ := Story.exists_concat_of_next hr hdone hplace.symm
        obtain ⟨complaint, hfault⟩ := story.fault_of_handsOn (isTerminator_of_clean hclean hr) hh
        exact absurd hfault (not_fault_of_clean ho hd hclean hdone complaint)
    | goOn ht =>
      obtain ⟨prompt, options, hchoice, hi⟩ := exists_choice_of_mem_stops h hin
      obtain ⟨steps', rfl, rfl⟩ := Story.exists_concat_of_next hr hchoice hplace.symm
      exact .option rfl hi ht
    | leave _ _ => exact absurd rfl (hfirst _)

/-- If the review of a story that was loaded has no findings, and a run halts its engine with a call
that succeeds, then the playthrough has fallen through a node. -/
theorem fellThrough_of_halted {text : String} {language : Script.Language} {story : Story}
    (hload : Story.load text language = .ok story) (hclean : review story = []) (limit : Nat)
    (calls : List Engine.Call)
    (hh : ((Engine.idle story limit).play calls).status = .halted) :
    (∃ o, (Engine.idle story limit).HaltedBy calls o) ∧
      ∀ o, (Engine.idle story limit).HaltedBy calls o → o.result = .ok () →
        FellThrough story ((opened story limit).play calls) := by
  have ho := Story.ordered_of_load hload
  have hd := Story.dotFree_of_load hload
  have hconn : story.Connected := connected_of_no_errors ho hd (by rw [hclean]; rfl)
  refine ⟨Engine.exists_haltedBy (by simp [Engine.idle]) calls hh, ?_⟩
  rintro o ⟨before, c, after, rfl, hafter, hc, rfl, hhalted⟩ hok
  have htraveled := traveled_play story limit before
  have hengine : ((opened story limit).play before).engine =
      (Engine.idle story limit).play before := engine_play _ _
  rw [← hengine] at hc hhalted hok
  obtain ⟨node, steps, hcursor, hr, hfollows⟩ := follows_of_halted htraveled hconn hc hhalted hok
  have hfell : FellThrough story (((opened story limit).play before).call c) :=
    fellThrough_of_follows (traveled_call htraveled c) ho hd hclean hcursor hr
      (hfollows .ending [])
  obtain ⟨hsame, hstops⟩ :=
    play_of_halted (p := ((opened story limit).play before).call c) hhalted hafter
  have hplay : (opened story limit).play (before ++ c :: after) =
      (((opened story limit).play before).call c).play after := by
    simp [play]
  rw [FellThrough, hplay, hsame, hstops]
  exact hfell

/-- A document with a line and a branch that leads nowhere else if its test is false. -/
def openBranch : String :=
  "\x7b\"start\":\"A\",\"variables\":\x7b\x7d,\"nodes\":\x7b\"A\":[\x7b\"kind\":\"narration\"," ++
    "\"text\":\"Hi\"\x7d,\x7b\"kind\":\"conditional_jump\",\"test\":\"false\"," ++
    "\"thenNodeId\":\"A\"\x7d]\x7d\x7d"

/-- The story that the document describes. -/
def openBranchStory : Story where
  start := "A"
  vars := some []
  nodes := .group [("A", .leaf [.narration (some "Hi"),
    .branch (some (Script.Language.own.test "false" (.literal (.bool false))
      (.field "A" 1 "test"))) (some "A") none])]
  characters := []
  places := []

/-- Nothing is found in the story; once the line is read, playback falls through the branch. -/
theorem fellThrough_of_openBranch :
    Story.load openBranch .own = .ok openBranchStory ∧ review openBranchStory = [] ∧
      ((Engine.idle openBranchStory 5).play [.start, .advance]).status = .halted ∧
      (((Engine.idle openBranchStory 5).play [.start]).call .advance).result = .ok () ∧
      FellThrough openBranchStory ((opened openBranchStory 5).play [.start, .advance]) := by
  have hload : Story.load openBranch .own = .ok openBranchStory := by cbv
  have hclean : review openBranchStory = [] := by cbv
  have hwaits : ((Engine.idle openBranchStory 5).play [.start]).status = .awaitingAdvance := by cbv
  have hh : ((Engine.idle openBranchStory 5).play [.start, .advance]).status = .halted := by cbv
  have hok : (((Engine.idle openBranchStory 5).play [.start]).call .advance).result = .ok () := by
    cbv
  have hby : (Engine.idle openBranchStory 5).HaltedBy [.start, .advance]
      (((Engine.idle openBranchStory 5).play [.start]).call .advance) :=
    ⟨[.start], .advance, [], rfl, List.not_mem_nil, by simp [hwaits], rfl, hh⟩
  exact ⟨hload, hclean, hh, hok,
    (fellThrough_of_halted hload hclean 5 [.start, .advance] hh).2 _ hby hok⟩

end Playback.Playthrough

end BranchingStory
