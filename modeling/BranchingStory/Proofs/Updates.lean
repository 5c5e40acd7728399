import BranchingStory.Proofs.Itinerary
import BranchingStory.Proofs.Mirrored
import BranchingStory.Proofs.Replay
import BranchingStory.Proofs.Restart

/-!
# Updates of variables

The stops of a playthrough are all that it takes to know the variables: each step that is executed
and each option that is taken writes what it says, to the variables that the stops before it have
left, and nothing else writes (`accounted_play`).

The log of stored values does not come into this. What a stop writes (`Stop.write`) is settled by
the step or the option itself, so a value that is stored twice, too late or under another name would
be seen as a difference between the variables and the replay of the stops.
-/

namespace BranchingStory

open Playback

/-- The value that a source of values gives, unless the function of the author fails. -/
def ValueSource.value? (vars : Variables) : ValueSource → Option Value
  | literal value => some value
  | computed compute => (compute vars).toOption

/-- The variables after a step. -/
def Step.write (vars : Variables) : Step → Variables
  | setVariable (some key) (some source) =>
    match source.value? vars with
    | some value => vars.insert key value
    | none => vars
  | _ => vars

namespace Playback.Stop

/-- The variables after a stop. -/
def write (vars : Variables) : Stop → Variables
  | step _ executed _ => executed.write vars
  | option _ _ o => (o.apply vars).1

/-- The variables after some stops. -/
def replay (vars : Variables) (stops : List Stop) : Variables :=
  stops.foldl write vars

/-- Whether a stop is a step. -/
def isStep : Stop → Bool
  | step _ _ _ => true
  | option _ _ _ => false

/-- A stop may change the variable with a name: a step that sets it, and an option that has an
effect. -/
def MayWrite (key : String) : Stop → Prop
  | step _ (.setVariable (some name) (some _)) _ => name = key
  | step _ _ _ => False
  | option _ _ o => o.effect ≠ none

/-- If a stop is a step, then it was executed with the variables given. -/
def Sees (vars : Variables) : Stop → Prop
  | step _ _ seen => seen = vars
  | option _ _ _ => True

/-- Each of some stops was made with the variables that the stops before it have left. -/
def Timely (vars : Variables) : List Stop → Prop
  | [] => True
  | stop :: rest => stop.Sees vars ∧ Timely (stop.write vars) rest

variable {vars : Variables} {stops before after : List Stop} {stop : Stop}

@[simp] theorem replay_nil (vars : Variables) : replay vars [] = vars := rfl

theorem replay_append (vars : Variables) (first second : List Stop) :
    replay vars (first ++ second) = replay (replay vars first) second :=
  List.foldl_append

theorem replay_concat (vars : Variables) (stops : List Stop) (stop : Stop) :
    replay vars (stops ++ [stop]) = stop.write (replay vars stops) :=
  replay_append vars stops [stop]

theorem timely_append_iff :
    Timely vars (before ++ after) ↔ Timely vars before ∧ Timely (replay vars before) after := by
  induction before generalizing vars with
  | nil => exact ⟨fun h => ⟨trivial, h⟩, fun h => h.2⟩
  | cons first rest ih =>
    rw [List.cons_append, Timely, Timely, ih, and_assoc]
    rfl

/-- The variables with which a step was executed are those that the stops before it have left. -/
theorem Timely.sees (h : Timely vars (before ++ stop :: after)) : stop.Sees (replay vars before) :=
  (timely_append_iff.1 h).2.1

theorem Timely.concat (h : Timely vars stops) (hs : stop.Sees (replay vars stops)) :
    Timely vars (stops ++ [stop]) :=
  timely_append_iff.2 ⟨h, hs, trivial⟩

/-- What a stop may not write it leaves alone. -/
theorem get?_write_of_not_mayWrite {key : String} (h : ¬ stop.MayWrite key) :
    (stop.write vars).get? key = vars.get? key := by
  cases stop with
  | option place index o =>
    have hnone : o.effect = none := Classical.not_not.1 h
    show ((o.apply vars).1).get? key = _
    rw [ChoiceOption.apply, hnone]
  | step place executed seen =>
    show (executed.write vars).get? key = _
    unfold Step.write
    split
    · next name source =>
      have hne : name ≠ key := h
      split
      · exact Dict.get?_insert_of_ne vars _ hne
      · rfl
    · rfl

end Playback.Stop

/-! ## Steps -/

/-- A step leaves the variables as its replay does. -/
theorem Story.vars_perform_eq_write (story : Story) (scene : Scene) (place : Cursor) (step : Step) :
    (story.perform scene place step).scene.vars = step.write scene.vars := by
  have hleaves (hn : ∀ key source, step ≠ .setVariable (some key) (some source)) :
      (story.perform scene place step).scene.vars = scene.vars := by
    cases story.writes scene place step with
    | stores hs _ _ _ => exact absurd hs (hn _ _)
    | leaves hv _ => exact hv
  cases step with
  | setVariable key source =>
    rcases key with _ | key
    · exact hleaves (by simp)
    · rcases source with _ | ⟨value⟩ | ⟨compute⟩
      · exact hleaves (by simp)
      · rfl
      · show (performAssignment scene place (some key) (some (.computed compute))).scene.vars = _
        rw [performAssignment, Step.write, ValueSource.value?]
        cases compute scene.vars with
        | ok value => rfl
        | error error => rfl
  | _ => exact hleaves (by simp)

/-! ## Calls -/

namespace Playback.Engine

variable {e : Engine} {c : Call} {o : Outcome}

/-- A call takes an option: the engine offers it, and its effect succeeds. -/
inductive Takes (e : Engine) : Call → Stop → Prop
  | choose {index : Nat} {place : Cursor} {options : List ChoiceOption} {o : ChoiceOption}
      (ho : e.Offers place options) (hi : options[index]? = some o)
      (ha : (o.apply e.scene.vars).2 = .ok ()) : Takes e (.choose index) (.option place index o)

theorem Takes.ne_restart {stop : Stop} (h : e.Takes c stop) : c ≠ .restart := by
  rintro rfl
  cases h

/-- A call takes at most one option. -/
theorem Takes.unique {stop stop' : Stop} (h : e.Takes c stop) (h' : e.Takes c stop') :
    stop' = stop := by
  cases h with
  | choose ho hi _ =>
    cases h' with
    | choose ho' hi' _ =>
      obtain ⟨rfl, rfl⟩ := ho.unique ho'
      rw [Option.some.inj (hi.symm.trans hi')]

/-- Stops account for the variables of a scene, if these were the given ones before. -/
structure Accounts (vars : Variables) (stops : List Stop) (scene : Scene) : Prop where
  vars_eq : scene.vars = Stop.replay vars stops
  timely : Stop.Timely vars stops

theorem accounts_nil (scene : Scene) : Accounts scene.vars [] scene :=
  ⟨rfl, trivial⟩

theorem Accounts.record {vars : Variables} {events : List Event} {scene : Scene}
    (h : Accounts vars (Event.stops events) scene) (story : Story) (place : Cursor) (step : Step) :
    Accounts vars (Event.stops (events ++ story.record scene place step))
      (story.perform scene place step).scene := by
  rw [Event.stops_append, Story.stops_record]
  refine ⟨?_, h.timely.concat h.vars_eq⟩
  rw [Stop.replay_concat, ← h.vars_eq]
  exact story.vars_perform_eq_write scene place step

theorem Accounts.concat_of_none {vars : Variables} {events : List Event} {scene : Scene}
    (h : Accounts vars (Event.stops events) scene) {event : Event} (hn : event.stop? = none) :
    Accounts vars (Event.stops (events ++ [event])) scene := by
  rwa [Event.stops_concat_of_none _ hn]

theorem accountsRule (story : Story) (limit : Nat) (vars : Variables) :
    WalkRule story limit (fun events scene _ => Accounts vars (Event.stops events) scene)
      (fun o => Accounts vars (Event.stops o.events) o.engine.scene) where
  tripped h := h
  lost h _ := h.concat_of_none rfl
  exhausted h _ _ := h.concat_of_none rfl
  next h _ _ := h.record _ _ _
  goTo h _ _ := h.record _ _ _
  pause h _ _ := h.record _ _ _
  halt h _ _ := h.record _ _ _
  fail h _ _ := (h.record _ _ _).concat_of_none rfl

theorem stepsRule (story : Story) (limit : Nat) :
    WalkRule story limit (fun events _ _ => ∀ stop ∈ Event.stops events, stop.isStep = true)
      (fun o => ∀ stop ∈ Event.stops o.events, stop.isStep = true) := by
  have hrecord {events : List Event} (scene : Scene) (place : Cursor) (step : Step)
      (h : ∀ stop ∈ Event.stops events, stop.isStep = true) :
      ∀ stop ∈ Event.stops (events ++ story.record scene place step), stop.isStep = true := by
    rw [Event.stops_append, Story.stops_record]
    exact List.forall_mem_append.2 ⟨h, List.forall_mem_singleton.2 rfl⟩
  have hconcat {events : List Event} {event : Event} (hn : event.stop? = none)
      (h : ∀ stop ∈ Event.stops events, stop.isStep = true) :
      ∀ stop ∈ Event.stops (events ++ [event]), stop.isStep = true := by
    rwa [Event.stops_concat_of_none _ hn]
  constructor
  case tripped => exact id
  case lost => exact fun h _ => hconcat rfl h
  case exhausted => exact fun h _ _ => hconcat rfl h
  case next | goTo | pause | halt => exact fun h _ _ => hrecord _ _ _ h
  case fail => exact fun h _ _ => hconcat rfl (hrecord _ _ _ h)

theorem Departs.accounts {events : List Event} {scene : Scene} {place : Cursor}
    (hd : e.Departs c events scene place) :
    Accounts (e.varsBefore c) (Event.stops events) scene := by
  cases hd with
  | start _ _ | advance _ _ => exact accounts_nil e.scene
  | restart _ => exact accounts_nil (openingScene e.story)
  | goOn _ _ ha _ | leave _ _ ha _ _ =>
    exact ⟨(congrArg Prod.fst ha).symm, trivial, trivial⟩

/-- If the effects of a story that fail leave the variables as they were, then the stops of a call
account for the variables that it leaves. -/
theorem Called.accounts {language : Script.Language} (hcalled : e.Called c o)
    (hscripts : ∀ place step, e.story.stepAt? place = some step → step.Scripted language place) :
    Accounts (e.varsBefore c) (Event.stops o.events) o.engine.scene := by
  cases hcalled with
  | refused h =>
    rw [e.varsBefore_of_ne_restart h.ne_restart]
    exact accounts_nil e.scene
  | ignored hsignal _ =>
    rw [e.varsBefore_of_ne_restart (Call.ne_restart_of_signal hsignal)]
    exact accounts_nil e.scene
  | unrestarted _ => exact accounts_nil (openingScene e.story)
  | effectFailed ho hi ha =>
    -- An effect that fails is no stop, so the variables have to be those before it.
    obtain ⟨prompt, hstep⟩ := ho.step
    obtain rfl := (hscripts _ _ hstep).eq_of_effect_fails hi ha
    exact accounts_nil e.scene
  | stranded _ _ ha _ _ => exact ⟨(congrArg Prod.fst ha).symm, trivial, trivial⟩
  | walked hd => exact Story.walk_spec (accountsRule e.story e.limit _) _ hd.accounts

/-- The stops with which a call begins: the option that it takes, if it takes one. -/
inductive Opens (e : Engine) (c : Call) : List Stop → Prop
  | takes {stop : Stop} (h : e.Takes c stop) : Opens e c [stop]
  | passes (h : ∀ stop, ¬ e.Takes c stop) : Opens e c []

theorem opens_nil_of_no_choice (h : ∀ index, c ≠ .choose index) : e.Opens c [] := by
  refine .passes fun stop htakes => ?_
  cases htakes with
  | choose _ _ _ => exact h _ rfl

theorem opens_taken {index : Nat} {place : Cursor} {options : List ChoiceOption} {o : ChoiceOption}
    {vars : Variables} (ho : e.Offers place options) (hi : options[index]? = some o)
    (ha : o.apply e.scene.vars = (vars, .ok ())) :
    e.Opens (.choose index) [.option place index o] :=
  .takes (.choose ho hi (congrArg Prod.snd ha))

theorem Departs.opens {events : List Event} {scene : Scene} {place : Cursor}
    (hd : e.Departs c events scene place) : e.Opens c (Event.stops events) := by
  cases hd with
  | start _ _ | restart _ | advance _ _ => exact opens_nil_of_no_choice (by simp)
  | goOn ho hi ha _ | leave ho hi ha _ _ => exact opens_taken ho hi ha

theorem Refuses.not_takes {error : EngineError} (h : e.Refuses c error) (stop : Stop) :
    ¬ e.Takes c stop := by
  intro htakes
  cases htakes with
  | choose ho hi _ =>
    obtain ⟨prompt, hstep⟩ := ho.step
    cases h with
    | notAwaitingChoice _ hw => exact hw _ ho.status ho.cursor
    | nodeMissing _ hc hr =>
      obtain rfl := Option.some.inj (ho.cursor.symm.trans hc)
      obtain ⟨steps, hok, -⟩ := Story.stepAt?_eq_some_iff.1 hstep
      exact absurd (hr.symm.trans hok) (by simp)
    | choiceMissing _ hc hn =>
      obtain rfl := Option.some.inj (ho.cursor.symm.trans hc)
      exact hn prompt _ hstep
    | optionOutOfRange ho' hlen =>
      obtain ⟨-, rfl⟩ := ho.unique ho'
      exact absurd (hi.symm.trans (List.getElem?_eq_none hlen)) (by simp)

theorem not_takes_of_finished (hf : e.status.isFinished = true) (stop : Stop) :
    ¬ e.Takes c stop := by
  intro htakes
  cases htakes with
  | choose ho _ _ => exact absurd (ho.status ▸ hf) (by simp [Status.isFinished])

theorem not_takes_of_effect_fails {index : Nat} {place : Cursor} {options : List ChoiceOption}
    {o : ChoiceOption} {vars : Variables} {error : AuthorError} (ho : e.Offers place options)
    (hi : options[index]? = some o) (ha : o.apply e.scene.vars = (vars, .error error))
    (stop : Stop) : ¬ e.Takes (.choose index) stop := by
  intro htakes
  cases htakes with
  | choose ho' hi' ha' =>
    obtain ⟨-, rfl⟩ := ho.unique ho'
    obtain rfl := Option.some.inj (hi.symm.trans hi')
    rw [ha] at ha'
    exact absurd ha' (by simp)

/-- A call takes an option first, if it takes one at all, and then only executes steps. -/
theorem Called.exists_opens (hcalled : e.Called c o) :
    ∃ first steps, e.Opens c first ∧ Event.stops o.events = first ++ steps ∧
      ∀ stop ∈ steps, stop.isStep = true := by
  cases hcalled with
  | refused h => exact ⟨[], [], .passes h.not_takes, rfl, List.forall_mem_nil _⟩
  | ignored _ hf => exact ⟨[], [], .passes (not_takes_of_finished hf), rfl, List.forall_mem_nil _⟩
  | unrestarted _ =>
    exact ⟨[], [], opens_nil_of_no_choice (by simp), rfl, List.forall_mem_nil _⟩
  | effectFailed ho hi ha =>
    exact ⟨[], [], .passes (not_takes_of_effect_fails ho hi ha), rfl, List.forall_mem_nil _⟩
  | stranded ho hi ha _ _ =>
    exact ⟨_, [], opens_taken ho hi ha, rfl, List.forall_mem_nil _⟩
  | @walked _ events scene place hd =>
    have hsteps : ∀ stop ∈ Event.stops (e.story.walk e.limit scene place).events,
        stop.isStep = true :=
      Story.walk_spec (stepsRule e.story e.limit) [] (List.forall_mem_nil _)
    exact ⟨_, _, hd.opens, Event.stops_append _ _, hsteps⟩

end Playback.Engine

/-! ## Playthroughs -/

namespace Playback.Playthrough

variable {language : Script.Language} {story : Story} {p : Playthrough}

/-- The stops of a playthrough account for the variables of its engine. -/
structure Accounts (story : Story) (p : Playthrough) : Prop where
  story_eq : p.engine.story = story
  accounts : Engine.Accounts story.initialVariables p.stops p.engine.scene

theorem accounts_call
    (hscripts : ∀ place step, story.stepAt? place = some step → step.Scripted language place)
    (h : Accounts story p) (c : Engine.Call) : Accounts story (p.call c) := by
  obtain ⟨rfl, hvars, htimely⟩ := h
  have hcalled := p.engine.called c
  have hcall := hcalled.accounts hscripts
  refine ⟨hcalled.plays.story_eq, ?_⟩
  by_cases hc : c = .restart
  · subst hc
    exact hcall
  · rw [p.engine.varsBefore_of_ne_restart hc, hvars] at hcall
    rw [stops_call p hc]
    exact ⟨(Stop.replay_append _ _ _).symm ▸ hcall.vars_eq,
      Stop.timely_append_iff.2 ⟨htimely, hcall.timely⟩⟩

theorem accounts_play
    (hscripts : ∀ place step, story.stepAt? place = some step → step.Scripted language place)
    (limit : Nat) (calls : List Engine.Call) :
    Accounts story ((opened story limit).play calls) := by
  have hopened : Accounts story (opened story limit) :=
    ⟨rfl, Engine.accounts_nil (Engine.openingScene story)⟩
  exact play_induction (I := Accounts story) (fun _ c h => accounts_call hscripts h c) hopened calls

theorem exists_option_of_mem_stops (h : Traveled story p) {place : Cursor} {index : Nat}
    {o : ChoiceOption} (hs : .option place index o ∈ p.stops) : ∃ prompt options,
    story.stepAt? place = some (.choice prompt options) ∧ options[index]? = some o := by
  obtain ⟨event, hevent, hstop⟩ := List.mem_filterMap.1 hs
  cases event with
  | taken place' index' o' =>
    obtain ⟨rfl, rfl, rfl⟩ := Stop.option.inj (Option.some.inj hstop)
    exact h.bearsOut _ hevent
  | _ => exact absurd hstop (by simp [Event.stop?])

/-- How the variables come about in a playthrough: they are what a replay of the stops since the
start or the last restart makes of those at the start, and each step was executed with what the
stops before it had left. The stops are steps and options of the story. A call adds the option that
it takes, once and before all steps, and adds no other option. A computation that fails writes
nothing and is the last stop. Whenever a variable changes, a step has set it by its name or an
effect was applied. -/
structure Accounted (story : Story) (p : Playthrough) : Prop where
  vars_eq : p.engine.scene.vars = Stop.replay story.initialVariables p.stops
  sees : ∀ before place step vars after, p.stops = before ++ .step place step vars :: after →
    vars = Stop.replay story.initialVariables before
  step : ∀ place step vars, .step place step vars ∈ p.stops → story.stepAt? place = some step
  option : ∀ place index o, .option place index o ∈ p.stops → ∃ prompt options,
    story.stepAt? place = some (.choice prompt options) ∧ options[index]? = some o
  takes : ∀ c stop, p.engine.Takes c stop → ∃ steps,
    (p.call c).stops = p.stops ++ stop :: steps ∧ ∀ later ∈ steps, later.isStep = true
  passes : ∀ c, (∀ stop, ¬ p.engine.Takes c stop) → ∃ steps,
    (p.call c).stops = (if c = .restart then [] else p.stops) ++ steps ∧
      ∀ later ∈ steps, later.isStep = true
  failed : ∀ before place key compute vars error after,
    p.stops = before ++ .step place (.setVariable (some key) (some (.computed compute))) vars ::
      after → compute vars = .error error →
    after = [] ∧ p.engine.scene.vars = Stop.replay story.initialVariables before
  changed : ∀ before stop after key, p.stops = before ++ stop :: after →
    (Stop.replay story.initialVariables (before ++ [stop])).get? key ≠
      (Stop.replay story.initialVariables before).get? key → stop.MayWrite key

/-- Whatever is called, no update of a variable of a story that was loaded is lost or invented. -/
theorem accounted_play {text : String} {language : Script.Language} {story : Story}
    (hload : Story.load text language = .ok story) (limit : Nat) (calls : List Engine.Call) :
    Accounted story ((opened story limit).play calls) := by
  have hscripts : ∀ place step, story.stepAt? place = some step → step.Scripted language place :=
    fun _ _ hs => Story.scripted_of_load hload hs
  have haccounts := accounts_play hscripts limit calls
  have htraveled := traveled_play story limit calls
  generalize (opened story limit).play calls = p at haccounts htraveled
  obtain ⟨rfl, hvars, htimely⟩ := haccounts
  have hsees : ∀ before place step vars after, p.stops = before ++ .step place step vars :: after →
      vars = Stop.replay p.engine.story.initialVariables before := by
    intro before place step vars after hstops
    rw [hstops] at htimely
    exact htimely.sees
  refine ⟨hvars, hsees, fun place step vars => stepAt?_of_mem_stops htraveled,
    fun place index o => exists_option_of_mem_stops htraveled, ?_, ?_, ?_, ?_⟩
  · intro c stop htakes
    obtain ⟨first, steps, hopens, hstops, hsteps⟩ := (p.engine.called c).exists_opens
    cases hopens with
    | takes h =>
      obtain rfl := h.unique htakes
      refine ⟨steps, ?_, hsteps⟩
      rw [stops_call p htakes.ne_restart, hstops]
      rfl
    | passes h => exact absurd htakes (h stop)
  · intro c hpasses
    obtain ⟨first, steps, hopens, hstops, hsteps⟩ := (p.engine.called c).exists_opens
    cases hopens with
    | takes h => exact absurd h (hpasses _)
    | passes _ =>
      refine ⟨steps, ?_, hsteps⟩
      by_cases hc : c = .restart
      · subst hc
        exact hstops
      · rw [if_neg hc, stops_call p hc, hstops]
        rfl
  · intro before place key compute vars error after hstops hfails
    have hdead : p.engine.story.DeadEnd vars
        (.setVariable (some key) (some (.computed compute))) := .fails (.assignment hfails)
    obtain rfl := (hstops ▸ htraveled.itinerary).eq_nil_of_deadEnd hdead
    obtain rfl := hsees _ _ _ _ _ hstops
    refine ⟨rfl, ?_⟩
    rw [hvars, hstops, Stop.replay_concat, Stop.write, Step.write, ValueSource.value?, hfails]
    rfl
  · intro before stop after key hstops hchanged
    refine Classical.byContradiction fun hn => hchanged ?_
    rw [Stop.replay_concat]
    exact Stop.get?_write_of_not_mayWrite hn

/-- A document with a lamp that can be lit, and a step that looks whether it is dark. -/
def lampDocument : String :=
  "\x7b\"start\":\"A\",\"nodes\":\x7b\"A\":[" ++
    "\x7b\"kind\":\"choice\",\"options\":[[\"Light\",null,\"vars.lit = true;\"]]\x7d," ++
    "\x7b\"kind\":\"set_variable\",\"key\":\"dark\",\"compute\":\"!vars.lit\"\x7d]\x7d\x7d"

/-- The record that the document is. -/
def lampRecord : Document where
  start := some "A"
  nodes := some (.object [("A", .array [
    .object [("kind", .string "choice"),
      ("options", .array [.array [.string "Light", .null, .string "vars.lit = true;"]])],
    .object [("compute", .string "!vars.lit"), ("key", .string "dark"),
      ("kind", .string "set_variable")]])])

/-- The script that lights the lamp. -/
def lightLamp : List Script.Stmt :=
  [.assign "vars" [.property false "lit"] none (.literal (.bool true))]

/-- The script that looks whether the lamp is dark. -/
def lampIsDark : Script.Expr :=
  .unary .complement (.chain (.variable "vars") [.property false "lit"])

/-- The story that the document describes. -/
def lampStory : Story where
  start := "A"
  vars := none
  nodes := .group [("A", .leaf [
    .choice none [⟨some "Light", none,
      some (Script.Language.own.effect lightLamp (.option "A" 0 0))⟩],
    .setVariable (some "dark")
      (some (.computed (Script.Language.own.compute lampIsDark (.field "A" 1 "compute"))))])]
  characters := []
  places := []

/-- The step sees the lamp lit, and the option that is not there has no effect. -/
theorem accounted_of_lamp :
    Story.load lampDocument .own = .ok lampStory ∧
      Accounted lampStory ((opened lampStory 5).play [.start, .choose 7, .choose 0]) ∧
      ((opened lampStory 5).play [.start, .choose 7, .choose 0]).engine.scene.vars =
        [("dark", .bool false), ("lit", .bool true)] := by
  have hparse : Document.parse lampDocument = .ok lampRecord := by cbv
  have hstory : lampRecord.story .own = .ok lampStory := by cbv
  have hload : Story.load lampDocument .own = .ok lampStory :=
    (Document.load_eq_story hparse .own).trans hstory
  exact ⟨hload, accounted_play hload 5 [.start, .choose 7, .choose 0], by cbv⟩

end Playback.Playthrough

end BranchingStory
