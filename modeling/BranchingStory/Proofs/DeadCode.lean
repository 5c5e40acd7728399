import BranchingStory.Proofs.Foreseen
import BranchingStory.Proofs.Pruning
import BranchingStory.Proofs.Restart
import BranchingStory.Proofs.Topics

/-!
# Nodes that nothing leads to

A review warns of nodes that the story does not start at and that no step names. Playback never
comes to them: it enters a node only at the start, or because a step or an option names it. So it
makes no difference to playback if these nodes are taken out of the story (`flagged_dead`).

The argument is about any two stories that differ in their nodes only and agree at the addresses
that playback can come to (`AgreesOn`): every call then does the same to an engine for the one and
to an engine for the other (`alike_call`).
-/

namespace BranchingStory

open Playback Review

/-- A story with other nodes. -/
def Story.withNodes (story : Story) (nodes : NodeTree) : Story :=
  { story with nodes }

/-- An engine for the story with other nodes. -/
def Playback.Engine.withNodes (e : Engine) (nodes : NodeTree) : Engine :=
  { e with story := e.story.withNodes nodes }

/-- Playback enters a node: its address is live and resolves. -/
def Story.Enters (story : Story) (live : String → Prop) (node : String) : Prop :=
  live node ∧ ∃ steps, story.nodes.resolve node = .ok steps

/-- Other nodes agree with those of a story at the live addresses. The story starts at a live
address, and the steps there name live addresses only. -/
structure Story.AgreesOn (story : Story) (live : String → Prop) (nodes : NodeTree) : Prop where
  resolve_iff : ∀ path steps, live path →
    (nodes.resolve path = .ok steps ↔ story.nodes.resolve path = .ok steps)
  start : story.Enters live story.start
  targets : ∀ place step, live place.node → story.stepAt? place = some step →
    ∀ target ∈ step.targets, live target

/-! ## Steps -/

namespace Story

variable {story : Story} {live : String → Prop} {nodes : NodeTree} {scene : Scene}
  {place place' : Cursor} {step : Step}

/-- Two performances differ at most in what they tell besides commands. -/
structure Same (p q : Performance) : Prop where
  scene : q.scene = p.scene
  move : q.move = p.move
  commands : Event.commands q.events = Event.commands p.events

/-- Nodes that lead to the same steps from an address both have a node there, or neither has. -/
theorem isOk_resolve_eq {path : String}
    (h : ∀ steps, nodes.resolve path = .ok steps ↔ story.nodes.resolve path = .ok steps) :
    (nodes.resolve path).isOk = (story.nodes.resolve path).isOk := by
  cases hr : story.nodes.resolve path with
  | ok steps => rw [(h steps).2 hr]
  | error problem =>
    cases hr' : nodes.resolve path with
    | ok steps => exact absurd (hr.symm.trans ((h steps).1 hr')) (by simp)
    | error problem' => rfl

theorem AgreesOn.isOk_eq (h : story.AgreesOn live nodes) {path : String} (hlive : live path) :
    (nodes.resolve path).isOk = (story.nodes.resolve path).isOk :=
  isOk_resolve_eq fun steps => h.resolve_iff path steps hlive

theorem same_skip (scene : Scene) (complaint : Complaint) :
    Same (scene.skip place complaint) (scene.skip place' complaint) :=
  ⟨rfl, rfl, rfl⟩

theorem same_performBackground {name : Option String} :
    Same (story.performBackground scene place name)
      ((story.withNodes nodes).performBackground scene place' name) := by
  cases name with
  | none => exact same_skip scene _
  | some name =>
    have hplaces : (story.withNodes nodes).places = story.places := rfl
    rw [performBackground, performBackground, hplaces]
    cases story.places.get? name with
    | none => exact same_skip scene _
    | some image => exact ⟨rfl, rfl, rfl⟩

theorem same_performAppearance {name pose : Option String} {position : Option Position} :
    Same (story.performAppearance scene place name pose position)
      ((story.withNodes nodes).performAppearance scene place' name pose position) := by
  have hcharacters : (story.withNodes nodes).characters = story.characters := rfl
  unfold performAppearance
  rw [hcharacters]
  split
  · next name pose position =>
    cases story.characters.get? name with
    | none => exact same_skip scene _
    | some character =>
      dsimp only
      cases character.poses.get? pose with
      | none => exact same_skip scene _
      | some image => exact ⟨rfl, rfl, rfl⟩
  · exact same_skip scene _

theorem same_performDisappearance {name : Option String} :
    Same (performDisappearance scene place name) (performDisappearance scene place' name) := by
  cases name with
  | none => exact same_skip scene _
  | some name =>
    rw [performDisappearance, performDisappearance]
    cases scene.stage.positionOf? name with
    | none => exact ⟨rfl, rfl, rfl⟩
    | some position => exact ⟨rfl, rfl, rfl⟩

theorem same_performDialogue {speaker text : Option String} :
    Same (story.performDialogue scene place speaker text)
      ((story.withNodes nodes).performDialogue scene place' speaker text) := by
  cases text with
  | none => exact same_skip scene _
  | some text =>
    have hname : (story.withNodes nodes).speakerName speaker = story.speakerName speaker := rfl
    rw [performDialogue, performDialogue, hname]
    rcases story.speakerName speaker with ⟨name, complaint⟩
    cases complaint with
    | none => exact ⟨rfl, rfl, rfl⟩
    | some complaint => exact ⟨rfl, rfl, rfl⟩

theorem same_performNarration {text : Option String} :
    Same (performNarration scene place text) (performNarration scene place' text) := by
  cases text with
  | none => exact same_skip scene _
  | some text => exact ⟨rfl, rfl, rfl⟩

theorem same_performAssignment {key : Option String} {source : Option ValueSource} :
    Same (performAssignment scene place key source)
      (performAssignment scene place' key source) := by
  unfold performAssignment
  split
  · exact ⟨rfl, rfl, rfl⟩
  · next key compute =>
    cases compute scene.vars with
    | ok value => exact ⟨rfl, rfl, rfl⟩
    | error error => exact ⟨rfl, rfl, rfl⟩
  · exact same_skip scene _

theorem same_transfer {target : String}
    (h : (nodes.resolve target).isOk = (story.nodes.resolve target).isOk) :
    Same (story.transfer scene place target)
      ((story.withNodes nodes).transfer scene place' target) := by
  have hnodes : (story.withNodes nodes).nodes = nodes := rfl
  rw [transfer, transfer, hnodes]
  cases hr : story.nodes.resolve target with
  | ok steps =>
    cases hr' : nodes.resolve target with
    | ok steps' => exact ⟨rfl, rfl, rfl⟩
    | error problem' => exact absurd (hr' ▸ hr ▸ h) Bool.noConfusion
  | error problem =>
    cases hr' : nodes.resolve target with
    | ok steps' => exact absurd (hr' ▸ hr ▸ h) Bool.noConfusion
    -- The two problems may differ: the way to the target can end earlier in one of the trees.
    | error problem' => exact ⟨rfl, rfl, rfl⟩

theorem same_transfer? {target : Option String}
    (h : ∀ name ∈ target, (nodes.resolve name).isOk = (story.nodes.resolve name).isOk) :
    Same (story.transfer? scene place target)
      ((story.withNodes nodes).transfer? scene place' target) := by
  cases target with
  | none => exact ⟨rfl, rfl, rfl⟩
  | some target => exact same_transfer (h target rfl)

theorem same_performBranch {test : Option Test} {target otherwise : Option String}
    (ht : ∀ name ∈ target, (nodes.resolve name).isOk = (story.nodes.resolve name).isOk)
    (ho : ∀ name ∈ otherwise, (nodes.resolve name).isOk = (story.nodes.resolve name).isOk) :
    Same (story.performBranch scene place test target otherwise)
      ((story.withNodes nodes).performBranch scene place' test target otherwise) := by
  cases test with
  | none => exact same_skip scene _
  | some test =>
    unfold performBranch
    dsimp only
    cases test scene.vars with
    | error error => exact ⟨rfl, rfl, rfl⟩
    | ok holds =>
      cases holds with
      | true => exact same_transfer? ht
      | false =>
        cases otherwise with
        | none => exact ⟨rfl, rfl, rfl⟩
        | some otherwise => exact same_transfer (ho otherwise rfl)

theorem same_performChoice {prompt : Option String} {options : List ChoiceOption} :
    Same (performChoice scene place prompt options)
      (performChoice scene place' prompt options) := by
  rw [performChoice, performChoice]
  split
  · exact same_skip scene _
  · exact ⟨rfl, rfl, rfl⟩

/-- A step does the same in a story with other nodes, and wherever it stands, if the nodes that it
names are there in both stories or in neither. -/
theorem same_perform (h : ∀ target ∈ step.targets,
      (nodes.resolve target).isOk = (story.nodes.resolve target).isOk) :
    Same (story.perform scene place step) ((story.withNodes nodes).perform scene place' step) := by
  cases step with
  | background name => exact same_performBackground
  | showCharacter name pose position => exact same_performAppearance
  | hideCharacter name => exact same_performDisappearance
  | dialogue speaker text => exact same_performDialogue
  | narration text => exact same_performNarration
  | setVariable key source => exact same_performAssignment
  | jump target => exact same_transfer? fun name hname => h name (Option.mem_toList.2 hname)
  | branch test target otherwise =>
    refine same_performBranch (fun name hname => ?_) fun name hname => ?_
    · exact h name (List.mem_append_left _ (Option.mem_toList.2 hname))
    · exact h name (List.mem_append_right _ (Option.mem_toList.2 hname))
  | choice prompt options => exact same_performChoice
  | ending => exact ⟨rfl, rfl, rfl⟩
  | unrecognized kind => exact same_skip scene _

end Story

/-! ## Walks -/

namespace Playback

variable {story : Story} {live : String → Prop} {nodes : NodeTree} {e : Engine}

/-- An engine plays a story and is at a node that playback enters. -/
structure Engine.StaysIn (e : Engine) (story : Story) (live : String → Prop) : Prop where
  story_eq : e.story = story
  enters : ∀ place, e.cursor = some place → story.Enters live place.node

/-- A call does the same to two engines, apart from what it tells besides commands. -/
structure Outcome.Alike (story : Story) (live : String → Prop) (nodes : NodeTree)
    (o o' : Outcome) : Prop where
  stays : o.engine.StaysIn story live
  engine : o'.engine = o.engine.withNodes nodes
  result : o'.result = o.result
  commands : o'.commands = o.commands

namespace Outcome.Alike

variable {o o' : Outcome}

theorem after (h : Alike story live nodes o o') {first second : List Event}
    (hc : Event.commands second = Event.commands first) :
    Alike story live nodes (o.after first) (o'.after second) where
  stays := h.stays
  engine := h.engine
  result := h.result
  commands := by
    show Event.commands (second ++ o'.events) = Event.commands (first ++ o.events)
    have hrest : Event.commands o'.events = Event.commands o.events := h.commands
    rw [Event.commands_append, Event.commands_append, hc, hrest]

theorem done (h : e.StaysIn story live) :
    Alike story live nodes e.done (e.withNodes nodes).done :=
  ⟨h, rfl, rfl, rfl⟩

theorem fail (h : e.StaysIn story live) (error : EngineError) :
    Alike story live nodes (e.fail error) ((e.withNodes nodes).fail error) :=
  ⟨h, rfl, rfl, rfl⟩

theorem sight_eq (h : Alike story live nodes o o') : o'.sight = o.sight := by
  rw [Outcome.sight, Outcome.sight, h.engine, h.result, h.commands]
  rfl

end Outcome.Alike

namespace Engine

open Outcome

theorem StaysIn.withScene (h : e.StaysIn story live) (scene : Scene) :
    ({ e with scene } : Engine).StaysIn story live :=
  ⟨h.story_eq, h.enters⟩

theorem StaysIn.withStatus (h : e.StaysIn story live) (status : Status) :
    (e.withStatus status).StaysIn story live :=
  ⟨h.story_eq, h.enters⟩

theorem StaysIn.placed (h : e.StaysIn story live) {place : Cursor}
    (hp : story.Enters live place.node) (status : Status) :
    ((e.placedAt place).withStatus status).StaysIn story live := by
  refine ⟨h.story_eq, fun found hfound => ?_⟩
  rw [← Option.some.inj hfound]
  exact hp

theorem alike_walkFrom (h : story.AgreesOn live nodes) (budget : Nat) (he : e.StaysIn story live)
    {place : Cursor} (hp : story.Enters live place.node) :
    Alike story live nodes (walkFrom budget e place)
      (walkFrom budget (e.withNodes nodes) place) := by
  -- Each step moves to a place that playback enters, so the node there is the same in both stories.
  induction budget generalizing e place with
  | zero => exact .fail (he.placed hp .halted) _
  | succ budget ih =>
    obtain rfl := he.story_eq
    obtain ⟨hlive, steps, hr⟩ := hp
    have hr' : (e.withNodes nodes).story.nodes.resolve place.node = .ok steps :=
      (h.resolve_iff place.node steps hlive).2 hr
    have hplace : (e.withNodes nodes).story.stepAt? place = e.story.stepAt? place := by
      rw [Story.stepAt?, Story.stepAt?, hr, hr']
    cases hs : e.story.stepAt? place with
    | none =>
      obtain ⟨events, hc, hw⟩ := walkFrom_succ_of_none budget hs
      obtain ⟨events', hc', hw'⟩ := walkFrom_succ_of_none budget (hplace.trans hs)
      rw [hw, hw']
      exact (Alike.done (he.placed ⟨hlive, steps, hr⟩ .halted)).after (hc'.trans hc.symm)
    | some step =>
      have ht := h.targets place step hlive hs
      have hsame : Story.Same (e.story.perform e.scene place step)
          ((e.withNodes nodes).story.perform (e.withNodes nodes).scene place step) :=
        Story.same_perform fun target htarget => h.isOk_eq (ht target htarget)
      have hscene := he.withScene (e.story.perform e.scene place step).scene
      rw [walkFrom_succ_of_stepAt? budget hs, walkFrom_succ_of_stepAt? budget (hplace.trans hs),
        hsame.scene, hsame.move]
      refine Alike.after ?_ hsame.commands
      cases hm : (e.story.perform e.scene place step).move with
      | next => exact ih hscene ⟨hlive, steps, hr⟩
      | goTo node =>
        obtain ⟨hleads, hnode⟩ := Story.leadsTo_of_goTo hm
        exact ih hscene ⟨ht node (Story.mem_targets_of_leadsTo hleads), hnode⟩
      | pause status => exact .done (hscene.placed ⟨hlive, steps, hr⟩ status)
      | halt => exact .done (hscene.placed ⟨hlive, steps, hr⟩ .halted)
      | fail error => exact (Alike.fail (hscene.placed ⟨hlive, steps, hr⟩ .halted) _).after rfl

/-! ## Calls -/

theorem alike_walk (h : story.AgreesOn live nodes) (he : e.StaysIn story live) {place : Cursor}
    (hp : story.Enters live place.node) :
    Alike story live nodes (e.walk place) ((e.withNodes nodes).walk place) :=
  alike_walkFrom h e.limit (he.withStatus .running) hp

theorem alike_start (h : story.AgreesOn live nodes) (he : e.StaysIn story live) :
    Alike story live nodes e.start (e.withNodes nodes).start := by
  obtain rfl := he.story_eq
  rw [start, start]
  by_cases hs : e.status = .idle
  · have hs' : (e.withNodes nodes).status = .idle := hs
    rw [if_pos hs, if_pos hs']
    obtain ⟨hlive, steps, hr⟩ := h.start
    have hr' : (e.withNodes nodes).story.nodes.resolve (e.withNodes nodes).story.start =
        .ok steps := (h.resolve_iff _ steps hlive).2 hr
    have hwalk : Alike e.story live nodes (e.walk (.first e.story.start))
        ((e.withNodes nodes).walk (.first e.story.start)) := alike_walk h he h.start
    rw [hr, hr']
    exact hwalk.after rfl
  · have hs' : ¬ (e.withNodes nodes).status = .idle := hs
    rw [if_neg hs, if_neg hs']
    exact .fail he _

theorem staysIn_idle (story : Story) (live : String → Prop) (limit : Nat) :
    (idle story limit).StaysIn story live :=
  ⟨rfl, fun place hp => absurd hp (by simp [idle])⟩

theorem alike_restart (h : story.AgreesOn live nodes) (he : e.StaysIn story live) :
    Alike story live nodes e.restart (e.withNodes nodes).restart := by
  obtain rfl := he.story_eq
  exact (alike_start h (staysIn_idle e.story live e.limit)).after rfl

theorem alike_advance (h : story.AgreesOn live nodes) (he : e.StaysIn story live) :
    Alike story live nodes e.advance (e.withNodes nodes).advance := by
  have hwalk : ∀ place, e.cursor = some place →
      Alike story live nodes (e.walk place.next) ((e.withNodes nodes).walk place.next) :=
    fun place hp => alike_walk h he (he.enters place hp)
  obtain ⟨found, limit, scene, status, cursor⟩ := e
  cases status with
  | awaitingAdvance =>
    cases cursor with
    | none => exact .fail he _
    | some place => exact hwalk place rfl
  | ended | halted => exact (Alike.done he).after rfl
  | idle | running | awaitingChoice => exact .fail he _

theorem alike_leaveChoice (h : story.AgreesOn live nodes) (he : e.StaysIn story live)
    {place : Cursor} (hp : story.Enters live place.node) {target : Option String}
    (ht : ∀ name ∈ target, live name) :
    Alike story live nodes (e.leaveChoice place target)
      ((e.withNodes nodes).leaveChoice place target) := by
  obtain rfl := he.story_eq
  cases target with
  | none => exact alike_walk h he hp
  | some target =>
    have hsame : Story.Same (e.story.transfer e.scene place target)
        ((e.withNodes nodes).story.transfer (e.withNodes nodes).scene place target) :=
      Story.same_transfer (h.isOk_eq (ht target rfl))
    have hcommands := hsame.commands
    rw [leaveChoice, leaveChoice, hsame.move]
    cases hr : e.story.nodes.resolve target with
    | ok steps =>
      have hm : (e.story.transfer e.scene place target).move = .goTo target := by
        rw [Story.transfer, hr]
      have hentered : e.story.Enters live target := ⟨ht target rfl, steps, hr⟩
      have hwalk : Alike e.story live nodes (e.walk (.first target))
          ((e.withNodes nodes).walk (.first target)) := alike_walk h he hentered
      rw [hm]
      exact hwalk.after hcommands
    | error problem =>
      have hm : (e.story.transfer e.scene place target).move = .halt := by
        rw [Story.transfer, hr]
      rw [hm]
      exact (Alike.done (he.withStatus .halted)).after hcommands

theorem alike_take (h : story.AgreesOn live nodes) (he : e.StaysIn story live) {place : Cursor}
    (hp : story.Enters live place.node) (index : Nat) {o : ChoiceOption}
    (ht : ∀ name ∈ o.target, live name) :
    Alike story live nodes (e.take place index o) ((e.withNodes nodes).take place index o) := by
  rw [take, take]
  cases o.effect with
  | none => exact (alike_leaveChoice h he hp ht).after rfl
  | some effect =>
    have heffect : effect (e.withNodes nodes).scene.vars = effect e.scene.vars := rfl
    dsimp only
    rw [heffect]
    rcases effect e.scene.vars with ⟨vars, result⟩
    cases result with
    | error error => exact .fail (he.withScene { e.scene with vars }) _
    | ok _ =>
      exact (alike_leaveChoice h (he.withScene { e.scene with vars }) hp ht).after rfl

theorem alike_choose (h : story.AgreesOn live nodes) (he : e.StaysIn story live) (index : Nat) :
    Alike story live nodes (e.choose index) ((e.withNodes nodes).choose index) := by
  obtain rfl := he.story_eq
  by_cases hw : ∃ place, e.status = .awaitingChoice ∧ e.cursor = some place
  · obtain ⟨place, hs, hc⟩ := hw
    have hs' : (e.withNodes nodes).status = .awaitingChoice := hs
    have hc' : (e.withNodes nodes).cursor = some place := hc
    obtain ⟨hlive, steps, hr⟩ := he.enters place hc
    have hr' : (e.withNodes nodes).story.nodes.resolve place.node = .ok steps :=
      (h.resolve_iff _ steps hlive).2 hr
    rw [choose, choose, hs, hc, hs', hc']
    dsimp only
    rw [hr, hr']
    dsimp only
    cases hstep : steps[place.index]? with
    | none => exact .fail he _
    | some step =>
      cases step with
      | choice prompt options =>
        dsimp only
        cases hi : options[index]? with
        | none => exact .fail he _
        | some o =>
          have hstep : e.story.stepAt? place = some (.choice prompt options) :=
            Story.stepAt?_eq_some_iff.2 ⟨steps, hr, hstep⟩
          refine alike_take h he ⟨hlive, steps, hr⟩ index fun name hname => ?_
          have hin : name ∈ (Step.choice prompt options).targets :=
            List.mem_filterMap.2 ⟨o, List.mem_of_getElem? hi, hname⟩
          exact h.targets place _ hlive hstep name hin
      | _ => exact .fail he _
  · -- Neither engine looks at its story.
    obtain ⟨found, limit, scene, status, cursor⟩ := e
    cases status with
    | awaitingChoice =>
      cases cursor with
      | none => exact .fail he _
      | some place => exact absurd ⟨place, rfl, rfl⟩ hw
    | ended | halted => exact (Alike.done he).after rfl
    | idle | running | awaitingAdvance => exact .fail he _

theorem alike_call (h : story.AgreesOn live nodes) (he : e.StaysIn story live) (c : Call) :
    Alike story live nodes (e.call c) ((e.withNodes nodes).call c) := by
  cases c with
  | start => exact alike_start h he
  | advance => exact alike_advance h he
  | choose index => exact alike_choose h he index
  | restart => exact alike_restart h he

/-! ## Runs -/

theorem map_sight_outcomes_withNodes (h : story.AgreesOn live nodes) (calls : List Call)
    (he : e.StaysIn story live) :
    ((e.withNodes nodes).outcomes calls).map Outcome.sight =
      (e.outcomes calls).map Outcome.sight := by
  induction calls generalizing e with
  | nil => rfl
  | cons c rest ih =>
    have hc := alike_call h he c
    rw [outcomes, outcomes, List.map_cons, List.map_cons, hc.sight_eq, hc.engine, ih hc.stays]

theorem staysIn_play (h : story.AgreesOn live nodes) (limit : Nat) (calls : List Call) :
    ((idle story limit).play calls).StaysIn story live :=
  play_induction (I := fun e => e.StaysIn story live) (fun _ c he => (alike_call h he c).stays)
    (staysIn_idle story live limit) calls

end Engine

end Playback

/-! ## Flagged nodes -/

/-- A review flags a node: it warns that nothing leads there. -/
def Story.isFlagged (story : Story) (path : String) : Bool :=
  (review story).any fun f => f.issue = .unreachable && f.location.text = path

/-- A story without the nodes that a review flags. -/
def Story.withoutFlagged (story : Story) : Story :=
  story.withNodes (story.nodes.keepLeaves fun path => !story.isFlagged path)

namespace Story

variable {story : Story}

theorem isFlagged_iff {path : String} :
    story.isFlagged path = true ↔
      path ∈ story.nodes.leafPaths ∧ isReachable story path = false := by
  rw [isFlagged, List.any_eq_true]
  constructor
  · rintro ⟨f, hf, hflag⟩
    obtain ⟨hissue, htext⟩ : f.issue = .unreachable ∧ f.location.text = path := by
      simpa using hflag
    rw [mem_review_iff, hissue] at hf
    obtain ⟨found, hfound, hin⟩ := List.mem_flatMap.1 hf
    obtain ⟨hreach, rfl⟩ := eq_of_mem_findingIf hin
    obtain rfl : found = path := htext
    exact ⟨hfound, by simpa using hreach⟩
  · rintro ⟨hpath, hreach⟩
    have hin : ⟨.warning, .node path, .unreachable⟩ ∈ reachFindings story :=
      List.mem_flatMap.2 ⟨path, hpath, by simp [findingIf, hreach]⟩
    exact ⟨_, mem_review_iff.2 hin, by simp [Location.text]⟩

theorem isFlagged_start : story.isFlagged story.start = false := by
  refine Bool.eq_false_iff.2 fun h => ?_
  have hreach := (isFlagged_iff.1 h).2
  simp [isReachable] at hreach

theorem isFlagged_of_mem_targets {place : Cursor} {step : Step} {target : String}
    (hs : story.stepAt? place = some step) (ht : target ∈ step.targets) :
    story.isFlagged target = false := by
  refine Bool.eq_false_iff.2 fun h => ?_
  have hreach := (isFlagged_iff.1 h).2
  obtain ⟨reference, hr, rfl, -⟩ := exists_reference place ht
  have hin : reference.target ∈ (references story).map Reference.target :=
    List.mem_map.2 ⟨reference, mem_references hs hr, rfl⟩
  simp [isReachable, hin] at hreach

theorem agreesOn_unflagged (ho : story.nodes.Ordered) {steps : List Step}
    (hr : story.nodes.resolve story.start = .ok steps) :
    story.AgreesOn (fun path => story.isFlagged path = false)
      (story.nodes.keepLeaves fun path => !story.isFlagged path) where
  resolve_iff path found hlive := by
    rw [NodeTree.resolve_keepLeaves_eq_ok_iff ho, hlive]
    exact and_iff_left rfl
  start := ⟨isFlagged_start, steps, hr⟩
  targets place step _ hs target ht := isFlagged_of_mem_targets hs ht

end Story

open Engine in
/-- Nodes that a review flags are dead code: no run comes to one of them, and without them every
call of every run has the same result and leads to the same state and commands. -/
theorem Story.flagged_dead (story : Story) (limit : Nat) (calls : List Call)
    (ho : story.nodes.Ordered) {steps : List Step}
    (hr : story.nodes.resolve story.start = .ok steps) :
    (∀ path, ((idle story limit).play calls).node? = some path → story.isFlagged path = false) ∧
      ((idle story.withoutFlagged limit).outcomes calls).map Outcome.sight =
        ((idle story limit).outcomes calls).map Outcome.sight := by
  have hagrees := agreesOn_unflagged ho hr
  constructor
  · intro path hpath
    obtain ⟨place, hplace, rfl⟩ := Option.map_eq_some_iff.1 hpath
    exact ((staysIn_play hagrees limit calls).enters place hplace).1
  · exact map_sight_outcomes_withNodes hagrees calls (staysIn_idle story _ limit)

/-- A story with a node in a group that no step names. -/
def sideRoom : Story where
  start := "A"
  vars := none
  nodes := .group [("A", .leaf [.narration (some "One."), .jump (some "G.B")]),
    ("G", .group [("B", .leaf [.ending]), ("D", .leaf [.jump (some "A")])])]
  characters := []
  places := []

theorem flagged_dead_of_sideRoom :
    sideRoom.isFlagged "G.D" = true ∧
      ((Engine.idle sideRoom.withoutFlagged 5).outcomes [.start, .advance]).map Outcome.sight =
        ((Engine.idle sideRoom 5).outcomes [.start, .advance]).map Outcome.sight ∧
      ((Engine.idle sideRoom 5).play [.start, .advance]).status = .ended := by
  have hgroup : (NodeTree.group [("B", .leaf [.ending]), ("D", .leaf [.jump (some "A")])]).Ordered :=
    .group (List.pairwise_pair.2 (by decide))
      (List.forall_mem_cons.2 ⟨.leaf _, List.forall_mem_singleton.2 (.leaf _)⟩)
  have ho : sideRoom.nodes.Ordered :=
    .group (List.pairwise_pair.2 (by decide))
      (List.forall_mem_cons.2 ⟨.leaf _, List.forall_mem_singleton.2 hgroup⟩)
  have hr : sideRoom.nodes.resolve sideRoom.start =
      .ok [.narration (some "One."), .jump (some "G.B")] := rfl
  have hflagged : sideRoom.isFlagged "G.D" = true :=
    Story.isFlagged_iff.2 ⟨by decide, by decide⟩
  exact ⟨hflagged, (sideRoom.flagged_dead 5 [.start, .advance] ho hr).2, by decide⟩

end BranchingStory
