import BranchingStory.Proofs.DeadCode
import BranchingStory.Proofs.Display
import BranchingStory.Proofs.Strides

/-!
# Splitting a node

An author who finds a node too long moves its last steps to a new node and lets the others lead
there. Playback is the same after that (`matches_outcomes`): call by call the two engines send the
same commands, come to the same variables and the same stage, and are at corresponding places.

The story that was split takes a step more wherever playback passes the cut, so its engine is now
and then a step behind, at the jump to the new node (`Split.Meets`). A walk may come to its limit
because of that, which is why runs in which a limit is hit are left out.
-/

namespace BranchingStory

open Playback

/-- How a node is split. -/
structure Split where
  /-- The name of the node. -/
  node : String
  /-- The name of the new node. -/
  added : String
  /-- The steps that stay. -/
  kept : List Step
  /-- The steps that go to the new node. -/
  moved : List Step

namespace Split

/-- The nodes after the split. -/
def nodes (s : Split) (tree : NodeTree) : NodeTree :=
  (tree.addChild s.node (.leaf (s.kept ++ [.jump (some s.added)]))).addChild s.added (.leaf s.moved)

/-- The story after the split. -/
def story (s : Split) (story : Story) : Story :=
  story.withNodes (s.nodes story.nodes)

/-- A story can be split: it has the node, the name of the new node is not in use, and no step leads
to that name already. -/
structure Fits (s : Split) (story : Story) : Prop where
  children : ∃ children, story.nodes = .group children ∧
    Dict.get? children s.node = some (.leaf (s.kept ++ s.moved)) ∧
      Dict.get? children s.added = none
  node_undotted : '.' ∉ s.node.toList
  added_undotted : '.' ∉ s.added.toList
  start : story.start ≠ s.added
  targets : ∀ place step, story.stepAt? place = some step → s.added ∉ step.targets

/-- Where a step is after the split. -/
def place (s : Split) (before : Cursor) : Cursor :=
  if before.node = s.node ∧ s.kept.length ≤ before.index then
    ⟨s.added, before.index - s.kept.length⟩
  else before

/-- The engine for the story after the split that is as far as an engine for the story before. -/
def engine (s : Split) (limit : Nat) (e : Engine) : Engine where
  story := s.story e.story
  limit
  scene := e.scene
  status := e.status
  cursor := e.cursor.map s.place

/-- A walk through the story after the split is where one through the story before is, or the jump
to the new node is all that is between them. -/
inductive Meets (s : Split) (before : Cursor) : Cursor → Prop
  | aligned : Meets s before (s.place before)
  | behind (h : before = ⟨s.node, s.kept.length⟩) : Meets s before before

variable {s : Split}

/-! ## Places -/

theorem place_of_lt {before : Cursor} (h : before.index < s.kept.length) :
    s.place before = before :=
  if_neg fun hcut => Nat.not_le_of_lt h hcut.2

theorem place_of_node_ne {before : Cursor} (h : before.node ≠ s.node) : s.place before = before :=
  if_neg fun hcut => h hcut.1

theorem place_of_le {index : Nat} (h : s.kept.length ≤ index) :
    s.place ⟨s.node, index⟩ = ⟨s.added, index - s.kept.length⟩ :=
  if_pos ⟨rfl, h⟩

theorem meets_of_place_eq {before after : Cursor} (h : s.place before = after) :
    s.Meets before after :=
  h ▸ .aligned

/-- Both walks go on with the next step, which may be the first one after the cut. -/
theorem meets_next (before : Cursor) : s.Meets before.next (s.place before).next := by
  obtain ⟨node, index⟩ := before
  by_cases hnode : node = s.node
  · subst hnode
    by_cases hle : s.kept.length ≤ index
    · rw [place_of_le hle]
      refine meets_of_place_eq ((place_of_le (Nat.le_succ_of_le hle)).trans ?_)
      exact congrArg (Cursor.mk s.added) (Nat.succ_sub hle)
    · rw [place_of_lt (Nat.lt_of_not_le hle)]
      by_cases hcut : index + 1 = s.kept.length
      · exact .behind (congrArg _ hcut)
      · refine meets_of_place_eq (place_of_lt ?_)
        show index + 1 < s.kept.length
        omega
  · rw [place_of_node_ne hnode]
    exact meets_of_place_eq (place_of_node_ne hnode)

/-- Both walks go to the same node, which may be one with no steps before the cut. -/
theorem meets_first (node : String) : s.Meets (.first node) (.first node) := by
  by_cases hcut : Cursor.first node = ⟨s.node, s.kept.length⟩
  · exact .behind hcut
  · refine meets_of_place_eq (if_neg fun h => hcut ?_)
    obtain ⟨hnode, hle⟩ := h
    have hzero : s.kept.length = 0 := Nat.le_zero.1 hle
    rw [hzero]
    exact congrArg Cursor.first hnode

/-! ## Nodes -/

variable {story : Story}

/-- What the roots of the stories before and after the split hold. -/
structure Branches (s : Split) (story : Story) (before after : Dict NodeTree) : Prop where
  nodes_before : story.nodes = .group before
  nodes_after : (s.story story).nodes = .group after
  node_before : before.get? s.node = some (.leaf (s.kept ++ s.moved))
  node_after : after.get? s.node = some (.leaf (s.kept ++ [.jump (some s.added)]))
  added_before : before.get? s.added = none
  added_after : after.get? s.added = some (.leaf s.moved)
  others : ∀ name, name ≠ s.node → name ≠ s.added → after.get? name = before.get? name

namespace Fits

theorem exists_branches (h : s.Fits story) : ∃ before after, s.Branches story before after := by
  obtain ⟨children, hgroup, hnode, hadded⟩ := h.children
  have hne : s.added ≠ s.node := by
    intro heq
    rw [heq, hnode] at hadded
    exact absurd hadded (by simp)
  let cut := Dict.insert children s.node (.leaf (s.kept ++ [.jump (some s.added)]))
  refine ⟨children, Dict.insert cut s.added (.leaf s.moved), ?_⟩
  refine ⟨hgroup, ?_, hnode, ?_, hadded, Dict.get?_insert_self _ _ _, fun name hn ha => ?_⟩
  · show s.nodes story.nodes = _
    rw [hgroup]
    rfl
  · rw [Dict.get?_insert_of_ne _ _ hne]
    exact Dict.get?_insert_self _ _ _
  · rw [Dict.get?_insert_of_ne _ _ ha.symm]
    exact Dict.get?_insert_of_ne _ _ hn.symm

/-- The split node holds the steps that stay and those that go. -/
theorem resolve_before (h : s.Fits story) :
    story.nodes.resolve s.node = .ok (s.kept ++ s.moved) := by
  obtain ⟨before, after, hb⟩ := h.exists_branches
  rw [hb.nodes_before]
  exact (NodeTree.resolve_name_iff h.node_undotted).2 hb.node_before

/-- Then it holds the steps that stay, and leads to the new node. -/
theorem resolve_after (h : s.Fits story) : (s.story story).nodes.resolve s.node =
    .ok (s.kept ++ [.jump (some s.added)]) := by
  obtain ⟨before, after, hb⟩ := h.exists_branches
  rw [hb.nodes_after]
  exact (NodeTree.resolve_name_iff h.node_undotted).2 hb.node_after

/-- The new node holds the steps that go. -/
theorem resolve_added (h : s.Fits story) : (s.story story).nodes.resolve s.added = .ok s.moved := by
  obtain ⟨before, after, hb⟩ := h.exists_branches
  rw [hb.nodes_after]
  exact (NodeTree.resolve_name_iff h.added_undotted).2 hb.added_after

/-- There is no new node before the split. -/
theorem ne_added (h : s.Fits story) {path : String} {steps : List Step}
    (hr : story.nodes.resolve path = .ok steps) : path ≠ s.added := by
  rintro rfl
  obtain ⟨before, after, hb⟩ := h.exists_branches
  rw [hb.nodes_before, NodeTree.resolve_name_iff h.added_undotted, hb.added_before] at hr
  exact absurd hr (by simp)

/-- All other addresses lead to the same steps. -/
theorem resolve_iff (h : s.Fits story) {path : String} (hnode : path ≠ s.node)
    (hadded : path ≠ s.added) (steps : List Step) :
    (s.story story).nodes.resolve path = .ok steps ↔ story.nodes.resolve path = .ok steps := by
  obtain ⟨before, after, hb⟩ := h.exists_branches
  rw [hb.nodes_before, hb.nodes_after, NodeTree.resolve_eq_ok_iff, NodeTree.resolve_eq_ok_iff]
  obtain ⟨name, rest, hs⟩ := List.exists_cons_of_ne_nil (NodeTree.segments_ne_nil path)
  have hpath : NodeTree.joinPath (name :: rest) = path := hs ▸ NodeTree.joinPath_segments path
  rw [hs, NodeTree.follow, NodeTree.follow]
  by_cases hn : name = s.node
  · -- The address goes on below a leaf, so it leads nowhere in either story.
    subst hn
    cases rest with
    | nil => exact absurd (hpath.symm.trans String.intercalate_singleton) hnode
    | cons next rest =>
      rw [hb.node_before, hb.node_after]
      simp [NodeTree.follow]
  · by_cases ha : name = s.added
    · subst ha
      cases rest with
      | nil => exact absurd (hpath.symm.trans String.intercalate_singleton) hadded
      | cons next rest =>
        rw [hb.added_before, hb.added_after]
        simp [NodeTree.follow]
    · rw [hb.others name hn ha]

/-- An address that is not new leads to a node after the split exactly if it did before. -/
theorem isOk_eq (h : s.Fits story) {path : String} (hadded : path ≠ s.added) :
    ((s.story story).nodes.resolve path).isOk = (story.nodes.resolve path).isOk := by
  by_cases hnode : path = s.node
  · subst hnode
    rw [h.resolve_before, h.resolve_after]
    rfl
  · exact Story.isOk_resolve_eq (h.resolve_iff hnode hadded)

/-- A step is found where it has gone. -/
theorem stepAt?_place (h : s.Fits story) {before : Cursor} (hadded : before.node ≠ s.added) :
    (s.story story).stepAt? (s.place before) = story.stepAt? before := by
  obtain ⟨node, index⟩ := before
  by_cases hnode : node = s.node
  · subst hnode
    by_cases hle : s.kept.length ≤ index
    · rw [place_of_le hle, Story.stepAt?, Story.stepAt?, h.resolve_added, h.resolve_before]
      exact (List.getElem?_append_right hle).symm
    · have hlt := Nat.lt_of_not_le hle
      rw [place_of_lt hlt, Story.stepAt?, Story.stepAt?, h.resolve_after, h.resolve_before]
      exact (List.getElem?_append_left hlt).trans (List.getElem?_append_left hlt).symm
  · rw [place_of_node_ne hnode]
    refine Option.ext fun step => ?_
    rw [Story.stepAt?_eq_some_iff, Story.stepAt?_eq_some_iff]
    exact exists_congr fun steps => and_congr_left' (h.resolve_iff hnode hadded steps)

/-- At the cut there is the jump to the new node. -/
theorem stepAt?_cut (h : s.Fits story) :
    (s.story story).stepAt? ⟨s.node, s.kept.length⟩ = some (.jump (some s.added)) := by
  refine Story.stepAt?_eq_some_iff.2 ⟨_, h.resolve_after, ?_⟩
  exact List.getElem?_concat_length

end Fits

end Split

/-! ## Walks -/

/-- The code of the error of a call, if the call fails. -/
def Playback.Outcome.code? (wording : Wording) (o : Outcome) : Option String :=
  match o.result with
  | .ok _ => none
  | .error error => some (error.report wording).code

namespace Split

variable {s : Split} {limit : Nat} {e : Engine} {before place : Cursor}

/-- A call comes to the same after the split as before. -/
structure Matches (s : Split) (limit : Nat) (o o' : Outcome) : Prop where
  engine : o'.engine = s.engine limit o.engine
  code : ∀ wording, o'.code? wording = o.code? wording
  commands : o'.commands = o.commands

namespace Matches

variable {o o' : Outcome}

theorem after (h : s.Matches limit o o') {first second : List Event}
    (hc : Event.commands second = Event.commands first) :
    s.Matches limit (o.after first) (o'.after second) where
  engine := h.engine
  code := h.code
  commands := by
    show Event.commands (second ++ o'.events) = Event.commands (first ++ o.events)
    have hrest : Event.commands o'.events = Event.commands o.events := h.commands
    rw [Event.commands_append, Event.commands_append, hc, hrest]

/-- What happens on the way to the new node sends no commands. -/
theorem after_right (h : s.Matches limit o o') {events : List Event}
    (hc : Event.commands events = []) : s.Matches limit o (o'.after events) :=
  have hafter : s.Matches limit (o.after []) (o'.after events) := h.after hc
  hafter

theorem done : s.Matches limit e.done (s.engine limit e).done :=
  ⟨rfl, fun _ => rfl, rfl⟩

theorem fail {error error' : EngineError}
    (hc : ∀ wording, (error'.report wording).code = (error.report wording).code) :
    s.Matches limit (e.fail error) ((s.engine limit e).fail error') :=
  ⟨rfl, fun wording => congrArg some (hc wording), rfl⟩

end Matches

open Playback.Engine

/-- The walk that is at the cut makes up for the step that it is behind. -/
theorem walkFrom_cut (h : s.Fits e.story) (budget : Nat) :
    ∃ events, Event.commands events = [] ∧
      walkFrom (budget + 1) (s.engine limit e) ⟨s.node, s.kept.length⟩ =
        (walkFrom budget (s.engine limit e) (.first s.added)).after events := by
  have hs : (s.engine limit e).story.stepAt? ⟨s.node, s.kept.length⟩ =
      some (.jump (some s.added)) := h.stepAt?_cut
  have hr : (s.engine limit e).story.nodes.resolve s.added = .ok s.moved := h.resolve_added
  have hjump : (s.engine limit e).story.perform (s.engine limit e).scene ⟨s.node, s.kept.length⟩
      (.jump (some s.added)) =
        ⟨(s.engine limit e).scene, [.moved ⟨s.node, s.kept.length⟩ s.added], .goTo s.added⟩ := by
    show (s.engine limit e).story.transfer _ _ _ = _
    rw [Story.transfer, hr]
  refine ⟨(s.engine limit e).story.record (s.engine limit e).scene ⟨s.node, s.kept.length⟩
    (.jump (some s.added)), ?_, ?_⟩
  · rw [Story.commands_record, hjump]
    rfl
  · rw [walkFrom_succ_of_stepAt? budget hs, hjump]

theorem matches_walkFrom (h : s.Fits e.story) {budget budget' : Nat}
    (hn : before.node ≠ s.added) (hm : s.Meets before place)
    (ht : (walkFrom budget e before).tripped = false)
    (ht' : (walkFrom budget' (s.engine limit e) place).tripped = false) :
    s.Matches limit (walkFrom budget e before) (walkFrom budget' (s.engine limit e) place) := by
  -- Every step of the walk after the split is one of the walk before it, or makes up for the cut.
  induction budget' generalizing budget e before place with
  | zero => exact absurd ht' Bool.noConfusion
  | succ budget' ih =>
    cases hm with
    | behind hcut =>
      subst hcut
      obtain ⟨events, hc, hw⟩ := walkFrom_cut h budget'
      rw [hw] at ht' ⊢
      have hadded : s.Meets ⟨s.node, s.kept.length⟩ (.first s.added) :=
        meets_of_place_eq ((place_of_le (Nat.le_refl _)).trans (congrArg _ (Nat.sub_self _)))
      have hrest := ih h hn hadded ht ht'
      exact hrest.after_right hc
    | aligned =>
      cases budget with
      | zero => exact absurd ht Bool.noConfusion
      | succ budget =>
        have hplace : (s.engine limit e).story.stepAt? (s.place before) = e.story.stepAt? before :=
          h.stepAt?_place hn
        cases hs : e.story.stepAt? before with
        | none =>
          obtain ⟨events, hc, hw⟩ := walkFrom_succ_of_none budget hs
          obtain ⟨events', hc', hw'⟩ := walkFrom_succ_of_none budget' (hplace.trans hs)
          rw [hw, hw']
          exact Matches.done.after (hc'.trans hc.symm)
        | some step =>
          have htargets := h.targets before step hs
          let next : Engine := { e with scene := (e.story.perform e.scene before step).scene }
          have hsame : Story.Same (e.story.perform e.scene before step)
              ((s.engine limit e).story.perform (s.engine limit e).scene (s.place before) step) :=
            Story.same_perform fun target htarget => h.isOk_eq fun heq => htargets (heq ▸ htarget)
          rw [walkFrom_succ_of_stepAt? budget hs] at ht ⊢
          rw [walkFrom_succ_of_stepAt? budget' (hplace.trans hs), hsame.move, hsame.scene] at ht' ⊢
          refine Matches.after ?_ hsame.commands
          rw [Outcome.tripped_after] at ht ht'
          cases hm : (e.story.perform e.scene before step).move with
          | next =>
            rw [hm] at ht ht'
            exact ih (e := next) h hn (meets_next before) ht ht'
          | goTo node =>
            rw [hm] at ht ht'
            have hnode : node ≠ s.added := fun heq =>
              htargets (heq ▸ Story.mem_targets_of_leadsTo (Story.leadsTo_of_goTo hm).1)
            exact ih (e := next) h hnode (meets_first node) ht ht'
          | pause status => exact Matches.done
          | halt => exact Matches.done
          | fail error => exact (Matches.fail fun _ => rfl).after rfl

/-! ## Calls -/

theorem matches_walk (h : s.Fits e.story) (hn : before.node ≠ s.added) (hm : s.Meets before place)
    (ht : (e.walk before).tripped = false) (ht' : ((s.engine limit e).walk place).tripped = false) :
    s.Matches limit (e.walk before) ((s.engine limit e).walk place) :=
  matches_walkFrom (e := e.withStatus .running) h hn hm ht ht'

theorem matches_start (h : s.Fits e.story) (ht : e.start.tripped = false)
    (ht' : (s.engine limit e).start.tripped = false) :
    s.Matches limit e.start (s.engine limit e).start := by
  by_cases hs : e.status = .idle
  · have hs' : (s.engine limit e).status = .idle := hs
    have hok := h.isOk_eq h.start
    cases hr : e.story.nodes.resolve e.story.start with
    | ok steps =>
      cases hr' : (s.story e.story).nodes.resolve e.story.start with
      | error problem => exact absurd (hr' ▸ hr ▸ hok) Bool.noConfusion
      | ok steps' =>
        rw [start_of_resolved hs hr] at ht ⊢
        rw [start_of_resolved hs' hr'] at ht' ⊢
        exact (matches_walk h h.start (meets_first _) ht ht').after rfl
    | error problem =>
      cases hr' : (s.story e.story).nodes.resolve e.story.start with
      | ok steps' => exact absurd (hr' ▸ hr ▸ hok) Bool.noConfusion
      | error problem' =>
        have hr'' : (s.engine limit e).story.nodes.resolve (s.engine limit e).story.start =
            .error problem' := hr'
        rw [start, start, if_pos hs, if_pos hs', hr, hr'']
        exact .fail fun _ => rfl
  · have hs' : ¬ (s.engine limit e).status = .idle := hs
    rw [start_of_started hs, start_of_started hs']
    exact .fail fun _ => rfl

theorem matches_restart (h : s.Fits e.story) (ht : e.restart.tripped = false)
    (ht' : (s.engine limit e).restart.tripped = false) :
    s.Matches limit e.restart (s.engine limit e).restart :=
  (matches_start (e := idle e.story e.limit) h ht ht').after rfl

/-- An engine is never at the new node before the split. -/
theorem node_ne_added (h : s.Fits e.story) (he : e.Settled) (hc : e.cursor = some before) :
    before.node ≠ s.added := by
  cases he with
  | idle _ hn => exact absurd (hn.symm.trans hc) (by simp)
  | halted _ hc' hp =>
    obtain rfl := Option.some.inj (hc'.symm.trans hc)
    obtain ⟨steps, hr, -⟩ := hp
    exact h.ne_added hr
  | waiting hc' hs _ =>
    obtain rfl := Option.some.inj (hc'.symm.trans hc)
    obtain ⟨steps, hr, -⟩ := Story.stepAt?_eq_some_iff.1 hs
    exact h.ne_added hr

theorem matches_advance (h : s.Fits e.story) (he : e.Settled) (ht : e.advance.tripped = false)
    (ht' : (s.engine limit e).advance.tripped = false) :
    s.Matches limit e.advance (s.engine limit e).advance := by
  have hwalk : ∀ before, e.cursor = some before → (e.walk before.next).tripped = false →
      ((s.engine limit e).walk (s.place before).next).tripped = false →
      s.Matches limit (e.walk before.next) ((s.engine limit e).walk (s.place before).next) := by
    intro before hc
    have hn := node_ne_added h he hc
    have hnext : before.next.node ≠ s.added := hn
    exact matches_walk h hnext (meets_next before)
  obtain ⟨found, bound, scene, status, cursor⟩ := e
  cases status with
  | awaitingAdvance =>
    cases cursor with
    | none => exact .fail fun _ => rfl
    | some before => exact hwalk before rfl ht ht'
  | ended | halted => exact Matches.done.after rfl
  | idle | running | awaitingChoice => exact .fail fun _ => rfl

theorem matches_leaveChoice (h : s.Fits e.story) (hn : before.node ≠ s.added)
    {target : Option String} (htarget : ∀ name ∈ target, name ≠ s.added)
    (ht : (e.leaveChoice before target).tripped = false)
    (ht' : ((s.engine limit e).leaveChoice (s.place before) target).tripped = false) :
    s.Matches limit (e.leaveChoice before target)
      ((s.engine limit e).leaveChoice (s.place before) target) := by
  cases target with
  | none => exact matches_walk h hn (meets_next before) ht ht'
  | some target =>
    have hsame : Story.Same (e.story.transfer e.scene before target)
        ((s.engine limit e).story.transfer (s.engine limit e).scene (s.place before) target) :=
      Story.same_transfer (h.isOk_eq (htarget target rfl))
    rw [leaveChoice] at ht ht' ⊢
    rw [leaveChoice]
    rw [hsame.move] at ht' ⊢
    cases hr : e.story.nodes.resolve target with
    | ok steps =>
      have hm : (e.story.transfer e.scene before target).move = .goTo target := by
        rw [Story.transfer, hr]
      rw [hm] at ht ht' ⊢
      exact (matches_walk h (htarget target rfl) (meets_first target) ht ht').after hsame.commands
    | error problem =>
      have hm : (e.story.transfer e.scene before target).move = .halt := by
        rw [Story.transfer, hr]
      rw [hm]
      exact (Matches.done (e := e.withStatus .halted)).after hsame.commands

theorem matches_take (h : s.Fits e.story) (hn : before.node ≠ s.added) (index : Nat)
    {o : ChoiceOption} (htarget : ∀ name ∈ o.target, name ≠ s.added)
    (ht : (e.take before index o).tripped = false)
    (ht' : ((s.engine limit e).take (s.place before) index o).tripped = false) :
    s.Matches limit (e.take before index o)
      ((s.engine limit e).take (s.place before) index o) := by
  rw [take] at ht ht' ⊢
  rw [take]
  have hvars : (s.engine limit e).scene.vars = e.scene.vars := rfl
  rw [hvars] at ht' ⊢
  cases heffect : o.effect with
  | none =>
    rw [heffect] at ht ht'
    exact (matches_leaveChoice h hn htarget ht ht').after rfl
  | some effect =>
    rw [heffect] at ht ht'
    dsimp only at ht ht' ⊢
    rcases hv : effect e.scene.vars with ⟨vars, result⟩
    rw [hv] at ht ht'
    let next : Engine := { e with scene := { e.scene with vars } }
    cases result with
    | error error => exact Matches.fail (e := next) fun _ => rfl
    | ok _ => exact (matches_leaveChoice (e := next) h hn htarget ht ht').after rfl

/-- Where an engine offers options, the engine for the story after the split offers the same. -/
theorem offers_engine (h : s.Fits e.story) {options : List ChoiceOption}
    (ho : e.Offers before options) (hn : before.node ≠ s.added) :
    (s.engine limit e).Offers (s.place before) options := by
  obtain ⟨prompt, hstep⟩ := ho.step
  refine ⟨ho.status, ?_, prompt, (h.stepAt?_place hn).trans hstep⟩
  show e.cursor.map s.place = _
  rw [ho.cursor]
  rfl

theorem matches_choose (h : s.Fits e.story) (he : e.Settled) (index : Nat)
    (ht : (e.choose index).tripped = false)
    (ht' : ((s.engine limit e).choose index).tripped = false) :
    s.Matches limit (e.choose index) ((s.engine limit e).choose index) := by
  by_cases hs : e.status = .awaitingChoice
  · obtain ⟨before, options, ho, -⟩ := he.exists_offers hs
    have hn := node_ne_added h he ho.cursor
    have ho' : (s.engine limit e).Offers (s.place before) options := offers_engine h ho hn
    cases hi : options[index]? with
    | none =>
      have hle := List.getElem?_eq_none_iff.1 hi
      rw [choose_of_length_le ho hle, choose_of_length_le ho' hle]
      exact .fail fun _ => rfl
    | some o =>
      rw [choose_eq_take ho hi] at ht ⊢
      rw [choose_eq_take ho' hi] at ht' ⊢
      obtain ⟨prompt, hstep⟩ := ho.step
      refine matches_take h hn index (fun name hname heq => ?_) ht ht'
      have hin : name ∈ (Step.choice prompt options).targets :=
        List.mem_filterMap.2 ⟨o, List.mem_of_getElem? hi, hname⟩
      exact h.targets before _ hstep (heq ▸ hin)
  · obtain ⟨found, bound, scene, status, cursor⟩ := e
    cases status with
    | awaitingChoice => exact absurd rfl hs
    | ended | halted => exact Matches.done.after rfl
    | idle | running | awaitingAdvance => exact .fail fun _ => rfl

theorem matches_call (h : s.Fits e.story) (he : e.Settled) (c : Call)
    (ht : (e.call c).tripped = false) (ht' : ((s.engine limit e).call c).tripped = false) :
    s.Matches limit (e.call c) ((s.engine limit e).call c) := by
  cases c with
  | start => exact matches_start h ht ht'
  | advance => exact matches_advance h he ht ht'
  | choose index => exact matches_choose h he index ht ht'
  | restart => exact matches_restart h ht ht'

/-! ## Runs -/

theorem matches_outcomes (calls : List Call) (h : s.Fits e.story) (he : e.Settled)
    (ht : ∀ o ∈ e.outcomes calls, o.tripped = false)
    (ht' : ∀ o ∈ (s.engine limit e).outcomes calls, o.tripped = false) :
    List.Forall₂ (s.Matches limit) (e.outcomes calls) ((s.engine limit e).outcomes calls) := by
  induction calls generalizing e with
  | nil => exact .nil
  | cons c rest ih =>
    obtain ⟨hfirst, hrest⟩ := List.forall_mem_cons.1 ht
    obtain ⟨hfirst', hrest'⟩ := List.forall_mem_cons.1 ht'
    have hcall := matches_call h he c hfirst hfirst'
    have hafter := settled_call he c
    rw [hcall.engine] at hrest'
    refine .cons hcall ?_
    rw [hcall.engine]
    exact ih (hafter.story_eq ▸ h) hafter.settled hrest hrest'

/-- Splitting a node changes nothing for the player: as long as neither engine comes to its limit,
each call of a run fails with the same code or does not fail, sends the same commands, and leads to
the same status, variables and stage as before, at the place where the step has gone. -/
theorem matches_split (s : Split) (story : Story) (h : s.Fits story) (limit limit' : Nat)
    (calls : List Call)
    (ht : ∀ o ∈ (idle story limit).outcomes calls, o.tripped = false)
    (ht' : ∀ o ∈ (idle (s.story story) limit').outcomes calls, o.tripped = false) :
    List.Forall₂ (s.Matches limit') ((idle story limit).outcomes calls)
      ((idle (s.story story) limit').outcomes calls) :=
  matches_outcomes calls h (settled_idle story limit) ht ht'

/-- A story that goes in circles until the player leaves the circle. -/
def circle : Story where
  start := "A"
  vars := none
  nodes := .group [("A", .leaf ([.narration (some "One.")] ++
    [.choice none [⟨some "Again", some "A", none⟩, ⟨some "On", none, none⟩],
      .narration (some "Two."), .ending]))]
  characters := []
  places := []

/-- Its choice, and what follows, go to a node of their own. -/
def circleSplit : Split where
  node := "A"
  added := "B"
  kept := [.narration (some "One.")]
  moved := [.choice none [⟨some "Again", some "A", none⟩, ⟨some "On", none, none⟩],
    .narration (some "Two."), .ending]

theorem fits_circle : circleSplit.Fits circle where
  children := ⟨_, rfl, rfl, rfl⟩
  node_undotted := by decide
  added_undotted := by decide
  start := by decide
  targets place step hs := by
    obtain ⟨steps, hr, hstep⟩ := Story.stepAt?_eq_some_iff.1 hs
    have hleaf : (place.node, steps) ∈ [("A", circleSplit.kept ++ circleSplit.moved)] :=
      NodeTree.mem_leaves_of_resolve hr
    obtain ⟨-, rfl⟩ := Prod.mk.inj (List.mem_singleton.1 hleaf)
    have hunnamed : ∀ step ∈ circleSplit.kept ++ circleSplit.moved, "B" ∉ step.targets := by decide
    exact hunnamed step (List.mem_of_getElem? hstep)

/-- Once around the circle, a number that no option has, and out of the circle to the end. -/
def circleCalls : List Call :=
  [.start, .advance, .choose 0, .advance, .choose 7, .choose 1, .advance]

/-- One step is enough for every walk before the split, and two are after it. -/
theorem matches_split_of_circle :
    (circleSplit.Fits circle ∧
      (∀ o ∈ (idle circle 1).outcomes circleCalls, o.tripped = false) ∧
      ∀ o ∈ (idle (circleSplit.story circle) 2).outcomes circleCalls, o.tripped = false) ∧
      List.Forall₂ (circleSplit.Matches 2) ((idle circle 1).outcomes circleCalls)
        ((idle (circleSplit.story circle) 2).outcomes circleCalls) := by
  have ht : ∀ o ∈ (idle circle 1).outcomes circleCalls, o.tripped = false := by decide
  have ht' : ∀ o ∈ (idle (circleSplit.story circle) 2).outcomes circleCalls, o.tripped = false := by
    decide
  refine ⟨⟨fits_circle, ht, ht'⟩, ?_⟩
  exact matches_split circleSplit circle fits_circle 1 2 circleCalls ht ht'

end Split

end BranchingStory
