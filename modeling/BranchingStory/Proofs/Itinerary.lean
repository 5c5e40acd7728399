import BranchingStory.Proofs.Settled
import Mathlib.Data.List.Chain

/-!
# The way through a story

The stops of a playthrough are the steps that it executes and the options that the player takes.
They form an itinerary: it begins with the first step of the story, and each stop leads to the next
one (`Story.Leads`), whether both are stops of one call or of different ones (`guided_play`).
-/

namespace BranchingStory

namespace Playback

/-- A stop of a playthrough. -/
inductive Stop
  /-- A step is executed, with these variables. -/
  | step (place : Cursor) (step : Step) (vars : Variables)
  /-- The option with a number is taken. -/
  | option (place : Cursor) (index : Nat) (o : ChoiceOption)

/-- The stop that an event tells about. -/
def Event.stop? : Event → Option Stop
  | executing place step vars => some (.step place step vars)
  | taken place index o => some (.option place index o)
  | _ => none

/-- The stops in a journal. -/
def Event.stops (events : List Event) : List Stop :=
  events.filterMap stop?

/-- The stops of a playthrough. -/
def Playthrough.stops (p : Playthrough) : List Stop :=
  Event.stops p.events

theorem Event.stops_append (first second : List Event) :
    stops (first ++ second) = stops first ++ stops second :=
  List.filterMap_append

theorem Event.stops_concat_of_none (events : List Event) {event : Event}
    (h : event.stop? = none) : stops (events ++ [event]) = stops events := by
  rw [stops_append, stops, stops, List.filterMap_cons_none h, List.filterMap_nil, List.append_nil]

end Playback

open Playback

namespace Story

variable {story : Story} {stops : List Stop} {stop : Stop} {place : Cursor}

/-- A stop leads to another one: a step that is no choice of the player leads where it leads to, a
choice leads to its options, and an option leads to its target, or on if it has none. -/
inductive Leads (story : Story) : Stop → Stop → Prop
  | step {place next : Cursor} {step after : Step} {vars vars' : Variables}
    (h : story.LeadsTo vars place step next) :
    Leads story (.step place step vars) (.step next after vars')
  | choose {place : Cursor} {prompt : Option String} {options : List ChoiceOption}
      {vars : Variables} {index : Nat} {o : ChoiceOption} (hi : options[index]? = some o) :
    Leads story (.step place (.choice prompt options) vars) (.option place index o)
  | goOn {place : Cursor} {index : Nat} {o : ChoiceOption} {after : Step} {vars : Variables}
      (ht : o.target = none) :
    Leads story (.option place index o) (.step place.next after vars)
  | leave {place : Cursor} {index : Nat} {o : ChoiceOption} {target : String} {steps : List Step}
      {after : Step} {vars : Variables} (ht : o.target = some target)
      (hr : story.nodes.resolve target = .ok steps) :
    Leads story (.option place index o) (.step (.first target) after vars)

/-- Steps after which nothing comes: the end of the story, a step in which a function of the author
fails, and a jump to a node that is not given or not there. -/
inductive DeadEnd (story : Story) (vars : Variables) : Step → Prop
  | ending : DeadEnd story vars .ending
  | fails {step : Step} {error : AuthorError} (h : step.Fails vars error) : DeadEnd story vars step
  | noTarget : DeadEnd story vars (.jump none)
  | jump {target : String} {problem : NodeTree.AddressProblem}
      (hr : story.nodes.resolve target = .error problem) :
    DeadEnd story vars (.jump (some target))
  | noBranchTarget {test : Test} {otherwise : Option String} (ht : test vars = .ok true) :
    DeadEnd story vars (.branch (some test) none otherwise)
  | branchTrue {test : Test} {target : String} {otherwise : Option String}
      {problem : NodeTree.AddressProblem} (ht : test vars = .ok true)
      (hr : story.nodes.resolve target = .error problem) :
    DeadEnd story vars (.branch (some test) (some target) otherwise)
  | branchFalse {test : Test} {target : Option String} {otherwise : String}
      {problem : NodeTree.AddressProblem} (ht : test vars = .ok false)
      (hr : story.nodes.resolve otherwise = .error problem) :
    DeadEnd story vars (.branch (some test) target (some otherwise))

theorem not_leadsTo_of_fails {vars : Variables} {step : Step} {error : AuthorError} {next : Cursor}
    (h : step.Fails vars error) : ¬ story.LeadsTo vars place step next := by
  intro hl
  cases h with
  | assignment hc =>
    cases hl with
    | handsOn hh =>
      obtain ⟨value, hv⟩ := hh
      exact absurd (hc.symm.trans hv) (by simp)
  | test hc =>
    cases hl with
    | branchTrue ht | branchFalse ht | fallThrough ht =>
      exact absurd (hc.symm.trans ht) (by simp)
    | handsOn hh => exact absurd hh (by simp [Step.HandsOn])

theorem not_leadsTo_of_deadEnd {vars : Variables} {step : Step} {next : Cursor}
    (h : story.DeadEnd vars step) : ¬ story.LeadsTo vars place step next := by
  cases h with
  | fails hf => exact not_leadsTo_of_fails hf
  | ending =>
    intro hl
    cases hl with
    | handsOn hh => exact hh
  | noTarget =>
    intro hl
    cases hl with
    | handsOn hh => exact hh
  | jump hr =>
    intro hl
    cases hl with
    | jump hok => exact absurd (hr.symm.trans hok) (by simp)
    | handsOn hh => exact hh
  | noBranchTarget ht =>
    intro hl
    cases hl with
    | branchFalse hf | fallThrough hf => exact absurd (ht.symm.trans hf) (by simp)
    | handsOn hh => exact absurd hh (by simp [Step.HandsOn])
  | branchTrue ht hr =>
    intro hl
    cases hl with
    | branchTrue _ hok => exact absurd (hr.symm.trans hok) (by simp)
    | branchFalse hf | fallThrough hf => exact absurd (ht.symm.trans hf) (by simp)
    | handsOn hh => exact absurd hh (by simp [Step.HandsOn])
  | branchFalse ht hr =>
    intro hl
    cases hl with
    | branchTrue hf => exact absurd (ht.symm.trans hf) (by simp)
    | branchFalse _ hok => exact absurd (hr.symm.trans hok) (by simp)
    | handsOn hh => exact absurd hh (by simp [Step.HandsOn])

theorem not_leads_of_deadEnd {vars : Variables} {step : Step} (h : story.DeadEnd vars step) :
    ¬ story.Leads (.step place step vars) stop := by
  intro hl
  cases hl with
  | step hs => exact not_leadsTo_of_deadEnd h hs
  | choose hi =>
    cases h with
    | fails hf => cases hf

/-- Stops that begin with the first step of the story and lead from one to the next. -/
structure Itinerary (story : Story) (stops : List Stop) : Prop where
  head : ∀ stop, stops.head? = some stop → ∃ step vars, stop = .step (.first story.start) step vars
  chain : stops.IsChain story.Leads

/-- A stop may follow after some stops: as the first one, or because the last one leads to it. -/
def Follows (story : Story) (stops : List Stop) (stop : Stop) : Prop :=
  (stops = [] ∧ ∃ step vars, stop = .step (.first story.start) step vars) ∨
    ∃ last, stops.getLast? = some last ∧ story.Leads last stop

/-- After a dead end an itinerary does not go on. -/
theorem Itinerary.eq_nil_of_deadEnd {before after : List Stop} {step : Step} {vars : Variables}
    (h : story.Itinerary (before ++ .step place step vars :: after))
    (hd : story.DeadEnd vars step) : after = [] := by
  cases after with
  | nil => rfl
  | cons next rest =>
    have hchain := (List.isChain_append.1 h.chain).2.1
    exact absurd (List.isChain_cons_cons.1 hchain).1 (not_leads_of_deadEnd hd)

theorem itinerary_nil (story : Story) : story.Itinerary [] :=
  ⟨by simp, .nil⟩

theorem Itinerary.concat (h : story.Itinerary stops) (hf : story.Follows stops stop) :
    story.Itinerary (stops ++ [stop]) := by
  rcases hf with ⟨rfl, hfirst⟩ | ⟨last, hlast, hleads⟩
  · refine ⟨?_, .singleton stop⟩
    intro s hs
    obtain rfl := Option.some.inj hs
    exact hfirst
  · refine ⟨?_, ?_⟩
    · intro s hs
      have hne : stops ≠ [] := by
        rintro rfl
        exact absurd hlast (by simp)
      rw [List.head?_append_of_ne_nil stops hne] at hs
      exact h.head s hs
    · refine h.chain.append (.singleton stop) ?_
      intro s hs t ht
      obtain rfl := Option.some.inj (hlast.symm.trans hs)
      obtain rfl := Option.some.inj ht
      exact hleads

theorem follows_concat {last : Stop} (h : story.Leads last stop) :
    story.Follows (stops ++ [last]) stop :=
  .inr ⟨last, by simp, h⟩

theorem follows_nil (story : Story) (step : Step) (vars : Variables) :
    story.Follows [] (.step (.first story.start) step vars) :=
  .inl ⟨rfl, step, vars, rfl⟩

theorem stop?_of_tells {step : Step} {event : Event} (h : story.Tells place step event) :
    event.stop? = none := by
  cases h <;> rfl

/-- A step that is executed is one stop. -/
theorem stops_record (story : Story) (scene : Scene) (place : Cursor) (step : Step) :
    Event.stops (story.record scene place step) = [.step place step scene.vars] := by
  have hnil : Event.stops (story.perform scene place step).events = [] :=
    List.filterMap_eq_nil_iff.2 fun event h => stop?_of_tells (tells_of_mem_perform h)
  rw [record, Event.stops, List.filterMap_cons]
  exact congrArg _ hnil

end Story

namespace Playback.Engine

variable {e : Engine} {before : List Stop}

/-- What an engine is going to do follows after the stops made so far. -/
structure Pending (e : Engine) (stops : List Stop) : Prop where
  start : e.status = .idle → stops = []
  advance : ∀ place, e.status = .awaitingAdvance → e.cursor = some place →
    ∀ step vars, e.story.Follows stops (.step place.next step vars)
  choose : ∀ place options, e.Offers place options → ∀ index o, options[index]? = some o →
    e.story.Follows stops (.option place index o)

theorem pending_of_halted {stops : List Stop} (hs : e.status = .halted) : e.Pending stops where
  start h := absurd (hs.symm.trans h) (by simp)
  advance _ h := absurd (hs.symm.trans h) (by simp)
  choose _ _ h := absurd (hs.symm.trans h.status) (by simp)

theorem pending_idle (story : Story) (limit : Nat) : (idle story limit).Pending [] where
  start _ := rfl
  advance _ h := absurd h (by simp [idle])
  choose _ _ h := absurd h.status (by simp [idle])

theorem Pending.withScene {stops : List Stop} (h : e.Pending stops) (scene : Scene) :
    ({ e with scene } : Engine).Pending stops where
  start := h.start
  advance := h.advance
  choose place options ho := h.choose place options ⟨ho.status, ho.cursor, ho.step⟩

/-- An engine that waits at the last step that was executed goes on from there. -/
theorem pending_of_awaits {stops : List Stop} {place : Cursor} {step : Step} {vars : Variables}
    (hc : e.cursor = some place) (hs : e.story.stepAt? place = some step)
    (hw : Awaits e.status step) : e.Pending (stops ++ [.step place step vars]) where
  start h := absurd h hw.ne_idle
  advance place' ha hc' after vars' := by
    obtain rfl := Option.some.inj (hc.symm.trans hc')
    rw [ha] at hw
    rcases hw.line with ⟨speaker, text, rfl⟩ | ⟨text, rfl⟩
    · exact Story.follows_concat (.step (.handsOn trivial))
    · exact Story.follows_concat (.step (.handsOn trivial))
  choose place' options ho index o hi := by
    obtain rfl := Option.some.inj (hc.symm.trans ho.cursor)
    obtain ⟨prompt, hstep⟩ := ho.step
    obtain rfl := Option.some.inj (hs.symm.trans hstep)
    exact Story.follows_concat (.choose hi)

/-- An engine has come to an outcome, with an itinerary that leads there. -/
structure Arrived (story : Story) (before : List Stop) (o : Outcome) : Prop where
  story_eq : o.engine.story = story
  itinerary : story.Itinerary (before ++ Event.stops o.events)
  pending : o.engine.Pending (before ++ Event.stops o.events)

theorem arrived_of_no_stops {story : Story} {o : Outcome} (hs : o.engine.story = story)
    (hn : Event.stops o.events = []) (hi : story.Itinerary before)
    (hp : o.engine.Pending before) : Arrived story before o := by
  refine ⟨hs, ?_, ?_⟩
  · rwa [hn, List.append_nil]
  · rwa [hn, List.append_nil]

/-- A walk is on an itinerary, and the step where it is may follow. -/
structure Underway (story : Story) (before : List Stop) (events : List Event) (place : Cursor) :
    Prop where
  itinerary : story.Itinerary (before ++ Event.stops events)
  follows : ∀ step vars, story.Follows (before ++ Event.stops events) (.step place step vars)

namespace Underway

variable {story : Story} {events : List Event} {place : Cursor}

theorem itinerary_record (h : Underway story before events place) (scene : Scene) (step : Step) :
    story.Itinerary (before ++ Event.stops (events ++ story.record scene place step)) := by
  rw [Event.stops_append, Story.stops_record, ← List.append_assoc]
  exact h.itinerary.concat (h.follows step scene.vars)

theorem record {scene : Scene} {step : Step} {next : Cursor}
    (h : Underway story before events place) (hl : story.LeadsTo scene.vars place step next) :
    Underway story before (events ++ story.record scene place step) next := by
  refine ⟨h.itinerary_record scene step, fun after vars => ?_⟩
  rw [Event.stops_append, Story.stops_record, ← List.append_assoc]
  exact Story.follows_concat (.step hl)

end Underway

theorem arrivedRule (story : Story) (limit : Nat) (before : List Stop) :
    WalkRule story limit (fun events _ place => Underway story before events place)
      (Arrived story before) where
  tripped h := ⟨rfl, h.itinerary, pending_of_halted rfl⟩
  lost h _ := by
    refine ⟨rfl, ?_, pending_of_halted rfl⟩
    rw [Event.stops_concat_of_none _ rfl]
    exact h.itinerary
  exhausted h _ _ := by
    refine ⟨rfl, ?_, pending_of_halted rfl⟩
    rw [Event.stops_concat_of_none _ rfl]
    exact h.itinerary
  next h _ hm := h.record (Story.leadsTo_of_next hm)
  goTo h _ hm := h.record (Story.leadsTo_of_goTo hm).1
  pause h hs hm := by
    refine ⟨rfl, h.itinerary_record _ _, ?_⟩
    rw [Event.stops_append, Story.stops_record, ← List.append_assoc]
    exact pending_of_awaits rfl hs (Story.awaits_of_pause hm)
  halt h _ _ := ⟨rfl, h.itinerary_record _ _, pending_of_halted rfl⟩
  fail h _ _ := by
    refine ⟨rfl, ?_, pending_of_halted rfl⟩
    rw [Event.stops_concat_of_none _ rfl]
    exact h.itinerary_record _ _

/-! ## Calls -/

/-- A walk departs on the itinerary of the playthrough. -/
theorem Departs.underway {c : Call} {events : List Event} {scene : Scene} {place : Cursor}
    (hd : e.Departs c events scene place) (hi : e.story.Itinerary before)
    (hr : c = .restart → before = []) (hp : c ≠ .restart → e.Pending before) :
    Underway e.story before events place := by
  cases hd with
  | start hs hok =>
    obtain rfl := (hp (by simp)).start hs
    exact ⟨e.story.itinerary_nil, e.story.follows_nil⟩
  | restart hok =>
    obtain rfl := hr rfl
    exact ⟨e.story.itinerary_nil, e.story.follows_nil⟩
  | @advance place hs hc =>
    refine ⟨by rwa [Event.stops, List.filterMap_nil, List.append_nil], fun step vars => ?_⟩
    rw [Event.stops, List.filterMap_nil, List.append_nil]
    exact (hp (by simp)).advance place hs hc step vars
  | @goOn index place options o vars ho hindex ha ht =>
    have hf := (hp (by simp)).choose place options ho index o hindex
    exact ⟨hi.concat hf, fun _ _ => Story.follows_concat (.goOn ht)⟩
  | @leave index place options o vars target steps ho hindex ha ht hok =>
    have hf := (hp (by simp)).choose place options ho index o hindex
    exact ⟨hi.concat hf, fun _ _ => Story.follows_concat (.leave ht hok)⟩

theorem Called.arrived {c : Call} {o : Outcome} (hcalled : e.Called c o)
    (hi : e.story.Itinerary before) (hr : c = .restart → before = [])
    (hp : c ≠ .restart → e.Pending before) : Arrived e.story before o := by
  cases hcalled with
  | refused h => exact arrived_of_no_stops rfl rfl hi (hp h.ne_restart)
  | ignored hsignal _ =>
    exact arrived_of_no_stops rfl rfl hi (hp (Call.ne_restart_of_signal hsignal))
  | unrestarted _ =>
    obtain rfl := hr rfl
    exact arrived_of_no_stops rfl rfl hi (pending_idle e.story e.limit)
  | effectFailed ho _ _ => exact arrived_of_no_stops rfl rfl hi ((hp (by simp)).withScene _)
  | @stranded index place options o vars target problem ho hindex ha ht hok =>
    have hf := (hp (by simp)).choose place options ho index o hindex
    exact ⟨rfl, hi.concat hf, pending_of_halted rfl⟩
  | walked hd => exact Story.walk_spec (arrivedRule e.story e.limit before) _ (hd.underway hi hr hp)

/-- A call continues the itinerary of the playthrough; a restart begins a new one. -/
theorem arrived_call (c : Call) (hi : e.story.Itinerary before)
    (hr : c = .restart → before = []) (hp : c ≠ .restart → e.Pending before) :
    Arrived e.story before (e.call c) :=
  (e.called c).arrived hi hr hp

end Playback.Engine

namespace Playback.Playthrough

/-- A playthrough of a story that follows an itinerary. -/
structure Traveled (story : Story) (p : Playthrough) : Prop where
  story_eq : p.engine.story = story
  itinerary : story.Itinerary p.stops
  pending : p.engine.Pending p.stops
  settled : p.engine.Settled
  bearsOut : ∀ event ∈ p.events, story.BearsOut event

variable {story : Story} {p : Playthrough}

theorem stops_call (p : Playthrough) {c : Engine.Call} (hc : c ≠ .restart) :
    (p.call c).stops = p.stops ++ Event.stops (p.engine.call c).events := by
  rw [stops, events_call p hc, Event.stops_append, stops]

theorem stops_restart (p : Playthrough) :
    (p.call .restart).stops = [] ++ Event.stops (p.engine.call .restart).events :=
  rfl

theorem stops_call_of_none {c : Engine.Call} (hc : c ≠ .restart)
    (h : Event.stops (p.engine.call c).events = []) : (p.call c).stops = p.stops := by
  rw [stops_call p hc, h, List.append_nil]

theorem traveled_call (h : Traveled story p) (c : Engine.Call) : Traveled story (p.call c) := by
  obtain ⟨rfl, hi, hp, hsettled, hb⟩ := h
  have hafter := Engine.settled_call hsettled c
  by_cases hc : c = .restart
  · subst hc
    have ha : Engine.Arrived p.engine.story [] (p.engine.call .restart) :=
      Engine.arrived_call _ p.engine.story.itinerary_nil (fun _ => rfl) fun h => absurd rfl h
    have hs := stops_restart p
    exact ⟨ha.story_eq, hs ▸ ha.itinerary, hs ▸ ha.pending, hafter.settled, hafter.bearsOut⟩
  · have ha : Engine.Arrived p.engine.story p.stops (p.engine.call c) :=
      Engine.arrived_call c hi (fun h => absurd h hc) fun _ => hp
    have hs := stops_call p hc
    refine ⟨ha.story_eq, hs ▸ ha.itinerary, hs ▸ ha.pending, hafter.settled, ?_⟩
    rw [events_call p hc]
    exact List.forall_mem_append.2 ⟨hb, hafter.bearsOut⟩

theorem traveled_opened (story : Story) (limit : Nat) : Traveled story (opened story limit) where
  story_eq := rfl
  itinerary := story.itinerary_nil
  pending := Engine.pending_idle story limit
  settled := Engine.settled_idle story limit
  bearsOut := List.forall_mem_nil _

theorem traveled_play (story : Story) (limit : Nat) (calls : List Engine.Call) :
    Traveled story ((opened story limit).play calls) :=
  play_induction (I := Traveled story) (fun _ c h => traveled_call h c)
    (traveled_opened story limit) calls

/-! ## Stops -/

theorem stepAt?_of_mem_stops (h : Traveled story p) {place : Cursor} {step : Step}
    {vars : Variables} (hs : .step place step vars ∈ p.stops) :
    story.stepAt? place = some step := by
  obtain ⟨event, hevent, hstop⟩ := List.mem_filterMap.1 hs
  cases event with
  | executing place' step' vars' =>
    obtain ⟨rfl, rfl, rfl⟩ := Stop.step.inj (Option.some.inj hstop)
    exact h.bearsOut _ hevent
  | _ => exact absurd hstop (by simp [Event.stop?])

end Playback.Playthrough

namespace Playback.Engine

variable {e : Engine} {place : Cursor} {options : List ChoiceOption} {index : Nat}
  {o : ChoiceOption}

theorem choose_eq_take (ho : e.Offers place options) (hi : options[index]? = some o) :
    e.choose index = e.take place index o := by
  obtain ⟨prompt, hstep⟩ := ho.step
  obtain ⟨steps, hr, hs⟩ := Story.stepAt?_eq_some_iff.1 hstep
  rw [choose, ho.status, ho.cursor]
  simp only [hr, hs, hi]

theorem take_of_effect_fails {vars : Variables} {error : AuthorError}
    (ha : o.apply e.scene.vars = (vars, .error error)) :
    e.take place index o =
      ⟨{ e with scene := { e.scene with vars } }, .error (.author error), []⟩ := by
  rw [take]
  rw [ChoiceOption.apply] at ha
  cases he : o.effect with
  | none =>
    rw [he] at ha
    exact absurd (Prod.mk.inj ha).2 (by simp)
  | some effect =>
    rw [he] at ha
    dsimp only at ha ⊢
    rw [ha]
    rfl

end Playback.Engine

namespace Playback.Playthrough

end Playback.Playthrough

end BranchingStory
