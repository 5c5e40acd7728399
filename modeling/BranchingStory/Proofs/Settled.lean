import BranchingStory.Proofs.Calls
import BranchingStory.Proofs.Perform
import BranchingStory.Word

/-!
# Where an engine can be

Between two calls an engine has not been started, has halted at a place of its story, or waits at a
step that is worth waiting for (`Engine.Settled`). Calls keep it so, and the story bears out
whatever they tell (`settled_call`). `agrees_play` spells out what this means after a run.
-/

namespace BranchingStory

open Playback

namespace Story

variable {story : Story} {place : Cursor} {step : Step}

/-- A node of a story has a step at a place, or the place is just after its last step. -/
def Holds (story : Story) (place : Cursor) : Prop :=
  ∃ steps, story.nodes.resolve place.node = .ok steps ∧ place.index ≤ steps.length

/-- The steps of each node of a story can be counted in 64 bits. -/
def FitsWord (story : Story) : Prop :=
  ∀ node steps, story.nodes.resolve node = .ok steps → steps.length < Word.bound

theorem holds_first {node : String} {steps : List Step}
    (hr : story.nodes.resolve node = .ok steps) : story.Holds (.first node) :=
  ⟨steps, hr, Nat.zero_le _⟩

theorem index_lt_of_stepAt? (hs : story.stepAt? place = some step) :
    ∃ steps, story.nodes.resolve place.node = .ok steps ∧ place.index < steps.length := by
  obtain ⟨steps, hr, hstep⟩ := stepAt?_eq_some_iff.1 hs
  obtain ⟨hlt, -⟩ := List.getElem?_eq_some_iff.1 hstep
  exact ⟨steps, hr, hlt⟩

theorem holds_of_stepAt? (hs : story.stepAt? place = some step) : story.Holds place := by
  obtain ⟨steps, hr, hlt⟩ := index_lt_of_stepAt? hs
  exact ⟨steps, hr, Nat.le_of_lt hlt⟩

theorem holds_next (hs : story.stepAt? place = some step) : story.Holds place.next := by
  obtain ⟨steps, hr, hlt⟩ := index_lt_of_stepAt? hs
  exact ⟨steps, hr, hlt⟩

/-- Where the steps of each node can be counted, so can the step after an existing one. -/
theorem FitsWord.next_lt (h : story.FitsWord) (hs : story.stepAt? place = some step) :
    place.next.index < Word.bound := by
  obtain ⟨steps, hr, hlt⟩ := index_lt_of_stepAt? hs
  have hle : place.next.index ≤ steps.length := hlt
  have hbound := h place.node steps hr
  omega

theorem holds_goTo {scene : Scene} {node : String}
    (hm : (story.perform scene place step).move = .goTo node) : story.Holds (.first node) := by
  obtain ⟨-, steps, hr⟩ := leadsTo_of_goTo hm
  exact holds_first hr

/-- What a story bears out of what a journal says: steps and options are where the journal has them,
complaints have their reason, and nodes do not get lost. -/
def BearsOut (story : Story) : Event → Prop
  | .executing place step _ => story.stepAt? place = some step
  | .taken place index o => ∃ prompt options,
    story.stepAt? place = some (.choice prompt options) ∧ options[index]? = some o
  | .complained place complaint =>
    ∃ step, story.stepAt? place = some step ∧ story.Fault step complaint
  | .lost _ => False
  | _ => True

theorem bearsOut_of_tells {event : Event} (hs : story.stepAt? place = some step)
    (h : story.Tells place step event) : story.BearsOut event := by
  cases h with
  | displayed command => trivial
  | complained hf => exact ⟨step, hs, hf⟩
  | notOnStage name => trivial
  | stored key value => trivial
  | moved target => trivial

theorem bearsOut_record {scene : Scene} (hs : story.stepAt? place = some step) :
    ∀ event ∈ story.record scene place step, story.BearsOut event := by
  intro event hevent
  rcases List.mem_cons.1 hevent with rfl | hevent
  · exact hs
  · exact bearsOut_of_tells hs (tells_of_mem_perform hevent)

end Story

namespace Playback.Engine

/-- Where an engine can be between two calls. -/
inductive Settled (e : Engine) : Prop
  /-- It has not been started. -/
  | idle (hs : e.status = .idle) (hc : e.cursor = none) (he : e.scene.stage = Stage.empty)
  /-- It has halted at a place. -/
  | halted {place : Cursor} (hs : e.status = .halted) (hc : e.cursor = some place)
    (hp : e.story.Holds place)
  /-- It waits for the player, or the story has ended. -/
  | waiting {place : Cursor} {step : Step} (hc : e.cursor = some place)
    (hs : e.story.stepAt? place = some step) (hw : Awaits e.status step)

/-- An engine is settled after a call for a story, which bears out what happened. -/
structure SettledAfter (story : Story) (o : Outcome) : Prop where
  story_eq : o.engine.story = story
  settled : o.engine.Settled
  bearsOut : ∀ event ∈ o.events, story.BearsOut event

variable {e : Engine} {place : Cursor}

theorem settled_idle (story : Story) (limit : Nat) : (idle story limit).Settled :=
  .idle rfl rfl rfl

theorem Settled.stepAt? (h : e.Settled) (hc : e.cursor = some place) (hh : e.status ≠ .halted) :
    ∃ step, e.story.stepAt? place = some step ∧ Awaits e.status step := by
  cases h with
  | idle _ hn => exact absurd (hn.symm.trans hc) (by simp)
  | halted hs => exact absurd hs hh
  | waiting hw hs ha =>
    obtain rfl := Option.some.inj (hw.symm.trans hc)
    exact ⟨_, hs, ha⟩

/-- A settled engine that waits for a choice offers some options. -/
theorem Settled.exists_offers (h : e.Settled) (hs : e.status = .awaitingChoice) :
    ∃ place options, e.Offers place options ∧ options ≠ [] := by
  cases h with
  | idle hidle | halted hidle => exact absurd (hidle.symm.trans hs) (by simp)
  | @waiting place step hc hstep hw =>
    rw [hs] at hw
    obtain ⟨prompt, options, rfl, ho⟩ := hw.options
    exact ⟨place, options, ⟨hs, hc, prompt, hstep⟩, ho⟩

theorem settledRule (story : Story) (limit : Nat) :
    WalkRule story limit
      (fun events _ place => story.Holds place ∧ ∀ event ∈ events, story.BearsOut event)
      (SettledAfter story) where
  tripped h := ⟨rfl, .halted rfl rfl h.1, h.2⟩
  lost h hr := by
    obtain ⟨steps, hok, -⟩ := h.1
    exact absurd (hr.symm.trans hok) (by simp)
  exhausted h _ _ := by
    refine ⟨rfl, .halted rfl rfl h.1, ?_⟩
    exact List.forall_mem_append.2 ⟨h.2, List.forall_mem_singleton.2 trivial⟩
  next h hs _ :=
    ⟨Story.holds_next hs, List.forall_mem_append.2 ⟨h.2, Story.bearsOut_record hs⟩⟩
  goTo h hs hm :=
    ⟨Story.holds_goTo hm, List.forall_mem_append.2 ⟨h.2, Story.bearsOut_record hs⟩⟩
  pause h hs hm :=
    ⟨rfl, .waiting rfl hs (Story.awaits_of_pause hm),
      List.forall_mem_append.2 ⟨h.2, Story.bearsOut_record hs⟩⟩
  halt h hs _ :=
    ⟨rfl, .halted rfl rfl h.1, List.forall_mem_append.2 ⟨h.2, Story.bearsOut_record hs⟩⟩
  fail h hs _ := by
    refine ⟨rfl, .halted rfl rfl h.1, ?_⟩
    exact List.forall_mem_append.2 ⟨List.forall_mem_append.2 ⟨h.2, Story.bearsOut_record hs⟩,
      List.forall_mem_singleton.2 trivial⟩

theorem bearsOut_taken {index : Nat} {options : List ChoiceOption} {o : ChoiceOption}
    (ho : e.Offers place options) (hi : options[index]? = some o) :
    e.story.BearsOut (.taken place index o) := by
  obtain ⟨prompt, hs⟩ := ho.step
  exact ⟨prompt, options, hs, hi⟩

theorem fault_of_offers {index : Nat} {options : List ChoiceOption} {o : ChoiceOption}
    {target : String} {problem : NodeTree.AddressProblem} (ho : e.Offers place options)
    (hi : options[index]? = some o) (ht : o.target = some target)
    (hr : e.story.nodes.resolve target = .error problem) :
    ∃ step, e.story.stepAt? place = some step ∧
      e.story.Fault step (.unresolvedTarget problem) := by
  obtain ⟨prompt, hs⟩ := ho.step
  have hin : target ∈ (Step.choice prompt options).targets :=
    List.mem_filterMap.2 ⟨o, List.mem_of_getElem? hi, ht⟩
  exact ⟨_, hs, .unresolvedTarget hin hr⟩

/-- A walk departs from a place of the story. -/
theorem Departs.holds {c : Call} {events : List Event} {scene : Scene} (h : e.Settled)
    (hd : e.Departs c events scene place) :
    e.story.Holds place ∧ ∀ event ∈ events, e.story.BearsOut event := by
  cases hd with
  | start hs hr => exact ⟨Story.holds_first hr, by simp [Story.BearsOut]⟩
  | restart hr => exact ⟨Story.holds_first hr, by simp [Story.BearsOut]⟩
  | advance hs hc =>
    obtain ⟨step, hstep, -⟩ := h.stepAt? hc (by simp [hs])
    exact ⟨Story.holds_next hstep, by simp⟩
  | goOn ho hi ha ht =>
    obtain ⟨prompt, hstep⟩ := ho.step
    exact ⟨Story.holds_next hstep, List.forall_mem_singleton.2 (bearsOut_taken ho hi)⟩
  | leave ho hi ha ht hr =>
    refine ⟨Story.holds_first hr, ?_⟩
    exact List.forall_mem_cons.2 ⟨bearsOut_taken ho hi, List.forall_mem_singleton.2 trivial⟩

theorem Called.settledAfter {c : Call} {o : Outcome} (hcalled : e.Called c o) (h : e.Settled) :
    SettledAfter e.story o := by
  cases hcalled with
  | refused _ => exact ⟨rfl, h, by simp [fail]⟩
  | ignored _ _ => exact ⟨rfl, h, List.forall_mem_singleton.2 trivial⟩
  | unrestarted _ => exact ⟨rfl, settled_idle _ _, List.forall_mem_singleton.2 trivial⟩
  | effectFailed ho _ _ =>
    obtain ⟨step, hs, hw⟩ := h.stepAt? ho.cursor (by simp [ho.status])
    exact ⟨rfl, .waiting ho.cursor hs hw, by simp⟩
  | stranded ho hi _ ht hr =>
    obtain ⟨step, hs, hf⟩ := fault_of_offers ho hi ht hr
    refine ⟨rfl, .halted rfl ho.cursor (Story.holds_of_stepAt? hs), ?_⟩
    exact List.forall_mem_cons.2
      ⟨bearsOut_taken ho hi, List.forall_mem_singleton.2 ⟨step, hs, hf⟩⟩
  | walked hd => exact Story.walk_spec (settledRule e.story e.limit) _ (hd.holds h)

/-- A call keeps an engine settled, and the story bears out what the call tells. -/
theorem settled_call (h : e.Settled) (c : Call) : SettledAfter e.story (e.call c) :=
  (e.called c).settledAfter h

/-! ## Runs -/

/-- An engine for a story after a run. -/
structure Reached (story : Story) (e : Engine) : Prop where
  story_eq : e.story = story
  settled : e.Settled

theorem reached_play (story : Story) (limit : Nat) (calls : List Call) :
    Reached story ((idle story limit).play calls) := by
  refine play_induction (fun e c h => ?_) ⟨rfl, settled_idle story limit⟩ calls
  have hc := settled_call h.settled c
  exact ⟨hc.story_eq.trans h.story_eq, hc.settled⟩

/-- How the status of an engine agrees with the node and the number of the step that it is at. -/
structure Agrees (e : Engine) : Prop where
  notRunning : e.status ≠ .running
  idle_iff : e.status = .idle ↔ e.node? = none
  idle : e.status = .idle → e.index = 0 ∧ e.scene.stage = Stage.empty
  node : ∀ node, e.node? = some node → ∃ steps, e.story.nodes.resolve node = .ok steps ∧
    e.index ≤ steps.length ∧ (e.status ≠ .halted → e.index < steps.length)
  awaitingAdvance : e.status = .awaitingAdvance →
    (∃ speaker text, e.step? = some (.dialogue speaker (some text))) ∨
      ∃ text, e.step? = some (.narration (some text))
  awaitingChoice : e.status = .awaitingChoice →
    ∃ prompt options, e.step? = some (.choice prompt options) ∧ options ≠ []
  ended : e.status = .ended → e.step? = some .ending

/-- What cannot happen to an engine whatever is called next: the place where it waits does not get
lost, and counting steps goes neither beyond the steps of a node nor, if these can be counted in 64
bits, beyond such a number. -/
structure Steady (e : Engine) : Prop where
  choice : ∀ index place, (e.choose index).result ≠ .error (.choiceMissing place)
  node : ∀ index problem, (e.choose index).result ≠ .error (.nodeMissing problem)
  notLost : ∀ c problem, Event.lost problem ∉ (e.call c).events
  counts : ∀ c place step vars, Event.executing place step vars ∈ (e.call c).events →
    ∃ steps, e.story.nodes.resolve place.node = .ok steps ∧ place.next.index ≤ steps.length
  executedFits : e.story.FitsWord → ∀ c place step vars,
    Event.executing place step vars ∈ (e.call c).events → place.next.index < Word.bound
  waitingFits : e.story.FitsWord → ∀ place, e.cursor = some place → e.status ≠ .halted →
    place.next.index < Word.bound

theorem node_of_holds (hc : e.cursor = some place) (hp : e.story.Holds place)
    (hlt : ∀ steps, e.story.nodes.resolve place.node = .ok steps → e.status ≠ .halted →
      place.index < steps.length) (node : String) (hn : e.node? = some node) :
    ∃ steps, e.story.nodes.resolve node = .ok steps ∧ e.index ≤ steps.length ∧
      (e.status ≠ .halted → e.index < steps.length) := by
  have hi : e.index = place.index := by rw [index, hc]; rfl
  rw [node?, hc] at hn
  obtain rfl := Option.some.inj hn
  obtain ⟨steps, hr, hle⟩ := hp
  rw [hi]
  exact ⟨steps, hr, hle, hlt steps hr⟩

theorem Settled.agrees (h : e.Settled) : e.Agrees := by
  cases h with
  | idle hs hc he => constructor <;> simp [hs, hc, he, node?, index]
  | halted hs hc hp =>
    have hnode := node_of_holds hc hp fun _ _ hh => absurd hs hh
    constructor <;> simp_all [node?]
  | @waiting place step hc hs hw =>
    have hstep : e.step? = some step := by rw [step?, hc]; exact hs
    have hnode := node_of_holds hc (Story.holds_of_stepAt? hs) fun steps hr _ => by
      obtain ⟨found, hf, hlt⟩ := Story.index_lt_of_stepAt? hs
      rw [hr] at hf
      exact Except.ok.inj hf ▸ hlt
    have hn : e.node? ≠ none := by simp [node?, hc]
    have hi : e.status = .idle ↔ e.node? = none := by simp [hw.ne_idle, hn]
    refine ⟨hw.ne_running, hi, fun hidle => absurd hidle hw.ne_idle, hnode, ?_, ?_, ?_⟩
    · intro ha
      rw [ha] at hw
      rw [hstep]
      rcases hw.line with ⟨speaker, text, rfl⟩ | ⟨text, rfl⟩
      · exact .inl ⟨speaker, text, rfl⟩
      · exact .inr ⟨text, rfl⟩
    · intro ha
      rw [ha] at hw
      obtain ⟨prompt, options, rfl, ho⟩ := hw.options
      exact ⟨prompt, options, hstep, ho⟩
    · intro ha
      rw [ha] at hw
      rw [hstep, hw.ending_eq]

theorem Settled.steady (h : e.Settled) : e.Steady where
  choice index place hresult := by
    obtain ⟨hrefuses, -⟩ := refuses_of_result (c := Call.choose index) (by simp) hresult rfl
    cases hrefuses with
    | choiceMissing hs hc hn =>
      obtain ⟨step, hstep, hw⟩ := h.stepAt? hc (by simp [hs])
      rw [hs] at hw
      obtain ⟨prompt, options, rfl, -⟩ := hw.options
      exact hn prompt options hstep
  node index problem hresult := by
    obtain ⟨hrefuses, -⟩ := refuses_of_result (c := Call.choose index) (by simp) hresult rfl
    cases hrefuses with
    | nodeMissing hs hc hr =>
      obtain ⟨step, hstep, -⟩ := h.stepAt? hc (by simp [hs])
      obtain ⟨steps, hok, -⟩ := Story.index_lt_of_stepAt? hstep
      exact absurd (hr.symm.trans hok) (by simp)
  notLost c problem hevent := (settled_call h c).bearsOut _ hevent
  counts c place step vars hevent := by
    have hs : e.story.stepAt? place = some step := (settled_call h c).bearsOut _ hevent
    exact Story.index_lt_of_stepAt? hs
  executedFits hfits c place step vars hevent := by
    have hs : e.story.stepAt? place = some step := (settled_call h c).bearsOut _ hevent
    exact hfits.next_lt hs
  waitingFits hfits place hc hh := by
    obtain ⟨step, hstep, -⟩ := h.stepAt? hc hh
    exact hfits.next_lt hstep

/-- After a run, whatever the calls of it returned, status, node and number of the step agree, and
the next call cannot upset them. -/
theorem agrees_play (story : Story) (limit : Nat) (calls : List Call) :
    ((idle story limit).play calls).story = story ∧
      ((idle story limit).play calls).Agrees ∧ ((idle story limit).play calls).Steady := by
  obtain ⟨hstory, hsettled⟩ := reached_play story limit calls
  exact ⟨hstory, hsettled.agrees, hsettled.steady⟩

end Playback.Engine

end BranchingStory
