import BranchingStory.Proofs.Demands
import BranchingStory.Proofs.Replay
import Mathlib

/-!
# Names of variables

Scripts reach a variable by its name, so it has to be an identifier. The names of the variables that
a document declares are checked when it is read. The names in the steps that set variables are not,
so identifiers are all that is ever set in a story exactly if such steps have set nothing else
(`usable_iff`).
-/

namespace BranchingStory

open Playback Document

theorem Dict.mem_keys_insert {α : Type} {d : Dict α} {key name : String} {value : α} :
    name ∈ (d.insert key value).keys ↔ name = key ∨ name ∈ d.keys := by
  induction d with
  | nil => simp [insert, keys]
  | cons entry rest ih =>
    obtain ⟨first, old⟩ := entry
    rw [insert]
    split
    · simp [keys]
    · split
      · next heq => simp [keys, heq]
      · simp only [keys, List.map_cons, List.mem_cons] at ih ⊢
        rw [ih]
        exact or_left_comm

/-- The names of the variables that the document of a story declares are identifiers. -/
theorem Story.isVariableName_of_load {text : String} {language : Script.Language} {story : Story}
    (h : Story.load text language = .ok story) :
    ∀ name ∈ story.initialVariables.keys, isVariableName name = true := by
  simp only [Story.load, bind_eq_ok, mapError_eq_ok] at h
  obtain ⟨d, -, h⟩ := h
  simp only [Document.story, bind_eq_ok, pure_eq_ok] at h
  obtain ⟨_, hcheck, _, -, rfl⟩ := h
  obtain ⟨hnamed, -⟩ := (reads_checkVariables d.vars).ok _ hcheck
  have hnames : VariablesNamed d.vars := hnamed _ (List.mem_singleton_self _)
  intro name hname
  rw [Story.initialVariables] at hname
  cases hvars : d.vars with
  | none =>
    rw [hvars] at hname
    exact absurd hname List.not_mem_nil
  | some declared =>
    rw [hvars] at hname
    exact hnames declared hvars name hname

namespace Playback

/-- If no effect is applied in a journal, then its replay sets the names that it stores. -/
theorem Event.mem_keys_replay {vars : Variables} {events : List Event}
    (hfree : ∀ place index o, .taken place index o ∈ events → o.effect = none) {name : String} :
    name ∈ (replay vars events).keys ↔
      name ∈ vars.keys ∨ ∃ place value, .stored place name value ∈ events := by
  induction events generalizing vars with
  | nil => simp [replay]
  | cons event rest ih =>
    have hrest : ∀ place index o, .taken place index o ∈ rest → o.effect = none :=
      fun place index o h => hfree place index o (List.mem_cons_of_mem _ h)
    rw [replay, List.foldl_cons, ← replay, ih hrest]
    cases event with
    | stored place key value =>
      rw [write, Dict.mem_keys_insert]
      constructor
      · rintro ((rfl | h) | ⟨place', value', h⟩)
        · exact .inr ⟨place, value, List.mem_cons_self⟩
        · exact .inl h
        · exact .inr ⟨place', value', List.mem_cons_of_mem _ h⟩
      · rintro (h | ⟨place', value', h⟩)
        · exact .inl (.inr h)
        · rcases List.mem_cons.1 h with heq | h
          · obtain ⟨-, rfl, -⟩ := Event.stored.inj heq
            exact .inl (.inl rfl)
          · exact .inr ⟨place', value', h⟩
    | taken place index o =>
      have hnone : o.effect = none := hfree place index o List.mem_cons_self
      simp [write, ChoiceOption.apply, hnone]
    | _ => simp [write]

/-- No option with an effect is chosen in a run. -/
def Engine.EffectFree (e : Engine) (calls : List Engine.Call) : Prop :=
  ∀ before index after place options o, calls = before ++ .choose index :: after →
    (e.play before).Offers place options → options[index]? = some o → o.effect = none

theorem Engine.EffectFree.of_concat {e : Engine} {calls : List Engine.Call} {c : Engine.Call}
    (h : e.EffectFree (calls ++ [c])) : e.EffectFree calls := by
  intro before index after place options o heq
  exact h before index (after ++ [c]) place options o (by simp [heq])

namespace Playthrough

variable {language : Script.Language} {story : Story} {p : Playthrough}

/-- What a playthrough has stored was stored by steps of the story, and no option was taken that has
an effect. -/
structure Plain (story : Story) (p : Playthrough) : Prop where
  story_eq : p.engine.story = story
  stored : ∀ place key value, .stored place key value ∈ p.events →
    ∃ source, story.stepAt? place = some (.setVariable (some key) (some source))
  taken : ∀ place index o, .taken place index o ∈ p.events → o.effect = none

theorem plain_call
    (hscripts : ∀ place step, story.stepAt? place = some step → step.Scripted language place)
    (h : Plain story p) (c : Engine.Call)
    (hc : ∀ index place options o, c = .choose index → p.engine.Offers place options →
      options[index]? = some o → o.effect = none) : Plain story (p.call c) := by
  obtain ⟨rfl, hstored, htaken⟩ := h
  obtain ⟨hstory, -, hjustified⟩ := (p.engine.called c).replayed hscripts
  -- The events of the playthrough are old ones, or new ones of the call.
  have hmem : ∀ event ∈ (p.call c).events,
      event ∈ p.events ∨ event ∈ (p.engine.call c).events := by
    intro event hevent
    by_cases hr : c = .restart
    · subst hr
      exact .inr hevent
    · rw [events_call p hr] at hevent
      exact List.mem_append.1 hevent
  refine ⟨hstory, ?_, ?_⟩
  · intro place key value hevent
    rcases hmem _ hevent with hold | hnew
    · exact hstored place key value hold
    · obtain ⟨source, _, -, hstep⟩ := hjustified _ hnew
      exact ⟨source, hstep⟩
  · intro place index o hevent
    rcases hmem _ hevent with hold | hnew
    · exact htaken place index o hold
    · obtain ⟨hchoose, options, hoffers, hi⟩ := hjustified _ hnew
      exact hc index place options o hchoose hoffers hi

theorem plain_play
    (hscripts : ∀ place step, story.stepAt? place = some step → step.Scripted language place)
    (limit : Nat) (calls : List Engine.Call)
    (hfree : (Engine.idle story limit).EffectFree calls) :
    Plain story ((opened story limit).play calls) := by
  induction calls using List.reverseRecOn with
  | nil => exact ⟨rfl, by simp [opened, play], by simp [opened, play]⟩
  | append_singleton calls c ih =>
    have hplay : (opened story limit).play (calls ++ [c]) =
        ((opened story limit).play calls).call c := by
      simp [play]
    have hengine : ((opened story limit).play calls).engine =
        (Engine.idle story limit).play calls := engine_play _ _
    rw [hplay]
    refine plain_call hscripts (ih hfree.of_concat) c ?_
    rintro index place options o rfl hoffers hi
    rw [hengine] at hoffers
    exact hfree calls index [] place options o rfl hoffers hi

/-- How the names of variables come about in a playthrough in which no effect is applied. -/
structure Named (story : Story) (p : Playthrough) : Prop where
  declared : ∀ name ∈ story.initialVariables.keys, isVariableName name = true
  stored : ∀ place name value, .stored place name value ∈ p.events →
    ∃ source, story.stepAt? place = some (.setVariable (some name) (some source))
  mem_iff : ∀ name, name ∈ p.engine.scene.vars.keys ↔
    name ∈ story.initialVariables.keys ∨ ∃ place value, .stored place name value ∈ p.events
  usable_iff : (∀ name ∈ p.engine.scene.vars.keys, isVariableName name = true) ↔
    ∀ place name value, .stored place name value ∈ p.events → isVariableName name = true

/-- In a run in which no option with an effect is chosen, the variables of a story that was loaded
are the declared ones, which have identifiers as names, and those that steps of the story have set
since the last restart. All names are identifiers if and only if those steps have set only
identifiers, which nothing checks. -/
theorem named_play {text : String} {language : Script.Language} {story : Story}
    (hload : Story.load text language = .ok story) (limit : Nat) (calls : List Engine.Call)
    (hfree : (Engine.idle story limit).EffectFree calls) :
    Named story ((opened story limit).play calls) := by
  have hscripts : ∀ place step, story.stepAt? place = some step → step.Scripted language place :=
    fun _ _ hs => Story.scripted_of_load hload hs
  have hdeclared := Story.isVariableName_of_load hload
  obtain ⟨-, hstored, htaken⟩ := plain_play hscripts limit calls hfree
  obtain ⟨-, hvars⟩ := replayed_play hscripts limit calls
  have hmem : ∀ name, name ∈ ((opened story limit).play calls).engine.scene.vars.keys ↔
      name ∈ story.initialVariables.keys ∨
        ∃ place value, .stored place name value ∈ ((opened story limit).play calls).events := by
    intro name
    rw [hvars]
    exact Event.mem_keys_replay htaken
  refine ⟨hdeclared, hstored, hmem, ?_, ?_⟩
  · intro husable place name value hevent
    exact husable name ((hmem name).2 (.inr ⟨place, value, hevent⟩))
  · intro husable name hname
    rcases (hmem name).1 hname with hinitial | ⟨place, value, hevent⟩
    · exact hdeclared name hinitial
    · exact husable place name value hevent

/-- A document with a step that sets a variable whose name is no identifier. -/
def dashedKey : String :=
  "\x7b\"start\":\"A\",\"variables\":\x7b\x7d,\"nodes\":\x7b\"A\":[" ++
    "\x7b\"kind\":\"set_variable\",\"key\":\"has-key\",\"value\":true\x7d," ++
    "\x7b\"kind\":\"end_story\"\x7d]\x7d\x7d"

/-- The story that the document describes. -/
def dashedStory : Story where
  start := "A"
  vars := some []
  nodes := .group [("A", .leaf [.setVariable (some "has-key") (some (.literal (.bool true))),
    .ending])]
  characters := []
  places := []

theorem effectFree_start (e : Engine) : e.EffectFree [.start] := by
  intro before index after place options o heq
  obtain ⟨_, -⟩ | ⟨before, rfl, heq⟩ := List.cons_eq_append_iff.1 heq
  · simp_all
  · simp at heq

/-- The names of the variables of that story come about in this way once it is started. -/
theorem named_of_dashedKey :
    Story.load dashedKey .own = .ok dashedStory ∧
      (Engine.idle dashedStory 5).EffectFree [.start] ∧
      Named dashedStory ((opened dashedStory 5).play [.start]) := by
  have hload : Story.load dashedKey .own = .ok dashedStory := by cbv
  exact ⟨hload, effectFree_start _, named_play hload 5 [.start] (effectFree_start _)⟩

/-- The story is loaded, but once it is started one of its variables cannot be reached by
scripts. -/
theorem unusable_of_dashedKey :
    Story.load dashedKey .own = .ok dashedStory ∧
      (Engine.idle dashedStory 5).EffectFree [.start] ∧
      "has-key" ∈ ((Engine.idle dashedStory 5).play [.start]).scene.vars.keys ∧
      isVariableName "has-key" = false := by
  have hload : Story.load dashedKey .own = .ok dashedStory := by cbv
  have hkeys : ((Engine.idle dashedStory 5).play [.start]).scene.vars.keys = ["has-key"] := by cbv
  refine ⟨hload, effectFree_start _, ?_, by cbv⟩
  rw [hkeys]
  exact List.mem_singleton_self _

end Playthrough

end Playback

end BranchingStory
