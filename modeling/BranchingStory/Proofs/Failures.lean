import BranchingStory.Proofs.Itinerary
import BranchingStory.Proofs.LoadedSteps
import Mathlib

/-!
# Calls that fail

A call that fails changes nothing if it was rejected or if the effect of the chosen option failed,
and it leaves the engine halted otherwise (`failures_contained`). That a failed effect changes
nothing is due to scripts, which work on a copy of the variables; that a restart which is rejected
changes nothing is due to the start, since an engine whose story cannot be started has never left
the state that a restart brings it to (`play_of_unresolved_start`).
-/

namespace BranchingStory

open Playback

namespace Playback

/-- The codes of the errors with which calls are rejected. -/
def EngineError.rejectionCodes : List String :=
  ["ENGINE_ALREADY_STARTED", "ENGINE_NOT_AWAITING_ADVANCE", "ENGINE_NOT_AWAITING_CHOICE",
    "ENGINE_CHOICE_INDEX", "ENGINE_START_NOT_FOUND"]

/-- The failure of a script is not told as a rejection. -/
theorem EngineError.code_author_notMem {error : AuthorError} (h : error.isGiven = false)
    (wording : Wording) : ((author error).report wording).code ∉ rejectionCodes := by
  cases error with
  | given code message location => exact absurd h (by simp [AuthorError.isGiven])
  | _ => simp [report, AuthorError.report, rejectionCodes]

end Playback

/-- The errors with which a walk through a story fails: it needs more steps than it may have, or a
function of the author fails in a step. -/
inductive Story.WalkFails (story : Story) : EngineError → Prop
  | tripped (limit : Nat) (place : Cursor) : WalkFails story (.limitExceeded limit (some place))
  | author {place : Cursor} {step : Step} {vars : Variables} {error : AuthorError}
      (hs : story.stepAt? place = some step) (hf : step.Fails vars error) :
    WalkFails story (.author error)

namespace Playback.Engine

variable {e : Engine} {c : Call} {o : Outcome} {error : EngineError} {story : Story}

/-- A call has changed nothing: the engine is the same, and no command was sent. -/
structure Keeps (e : Engine) (o : Outcome) : Prop where
  engine_eq : o.engine = e
  commands_eq : o.commands = []

theorem keeps_fail (e : Engine) (error : EngineError) : e.Keeps (e.fail error) :=
  ⟨rfl, rfl⟩

/-- An option is chosen whose effect fails. -/
inductive EffectFails (e : Engine) : Call → EngineError → Prop
  | choose {index : Nat} {place : Cursor} {options : List ChoiceOption} {o : ChoiceOption}
      {vars : Variables} {error : AuthorError} (ho : e.Offers place options)
      (hi : options[index]? = some o) (ha : o.apply e.scene.vars = (vars, .error error)) :
    EffectFails e (.choose index) (.author error)

/-! ## Walks that fail -/

theorem failureRule (story : Story) (limit : Nat) :
    WalkRule story limit (fun _ _ _ => True) (fun o => ∀ error, o.result = .error error →
      o.engine.status = .halted ∧ story.WalkFails error) where
  tripped _ error h := ⟨rfl, Except.error.inj h ▸ .tripped limit _⟩
  lost _ _ error h := absurd h (by simp)
  exhausted _ _ _ error h := absurd h (by simp)
  next _ _ _ := trivial
  goTo _ _ _ := trivial
  pause _ _ _ error h := absurd h (by simp)
  halt _ _ _ error h := absurd h (by simp)
  fail _ hs hm error h := ⟨rfl, Except.error.inj h ▸ .author hs (Story.fails_of_fail hm)⟩

/-- A walk that fails leaves the engine halted. -/
theorem halted_of_walk_fails {limit : Nat} {scene : Scene} {place : Cursor}
    (h : (story.walk limit scene place).result = .error error) :
    (story.walk limit scene place).engine.status = .halted ∧ story.WalkFails error :=
  Story.walk_spec (failureRule story limit) [] trivial error h

/-- If the functions of the author are scripts, the failure of a walk is not told as a
rejection. -/
theorem code_notMem_of_walkFails {language : Script.Language}
    (hscripts : ∀ place step, story.stepAt? place = some step → step.Scripted language place)
    (h : story.WalkFails error) (wording : Wording) :
    (error.report wording).code ∉ EngineError.rejectionCodes := by
  cases h with
  | tripped limit place => simp [EngineError.report, EngineError.rejectionCodes]
  | author hs hf =>
    exact EngineError.code_author_notMem ((hscripts _ _ hs).isGiven_of_fails hf) wording

/-! ## Stories that cannot be started -/

theorem start_of_unresolved {problem : NodeTree.AddressProblem} (hs : e.status = .idle)
    (hr : e.story.nodes.resolve e.story.start = .error problem) :
    e.start = e.fail (.startUnresolved e.story.start problem) := by
  rw [start, if_pos hs]
  simp only [hr]

/-- An engine for a story that cannot be started stays as it was made, whatever is called. -/
theorem play_of_unresolved_start {problem : NodeTree.AddressProblem}
    (hr : story.nodes.resolve story.start = .error problem) (limit : Nat) (calls : List Call) :
    (idle story limit).play calls = idle story limit := by
  have hstart : (idle story limit).start =
      (idle story limit).fail (.startUnresolved story.start problem) := start_of_unresolved rfl hr
  refine play_induction (I := fun e => e = idle story limit) ?_ rfl calls
  rintro e c rfl
  cases c with
  | start =>
    show (idle story limit).start.engine = _
    rw [hstart, fail]
  | advance => rfl
  | choose index => rfl
  | restart =>
    show ((idle story limit).start.after [.restarting]).engine = _
    rw [hstart, fail_after]

/-! ## Calls -/

/-- The reachable refusals are told as rejections. -/
theorem Refuses.code_mem (h : e.Refuses c error) (hsettled : e.Settled)
    (hresult : (e.call c).result = .error error) (wording : Wording) :
    (error.report wording).code ∈ EngineError.rejectionCodes := by
  cases h with
  | alreadyStarted | startUnresolved | notAwaitingAdvance | notAwaitingChoice | optionOutOfRange =>
    simp [EngineError.report, EngineError.rejectionCodes]
  | nodeMissing => exact absurd hresult (hsettled.steady.node _ _)
  | choiceMissing => exact absurd hresult (hsettled.steady.choice _ _)

/-- An engine for a story whose functions are scripts, as it is after a run. -/
structure Scripted (language : Script.Language) (e : Engine) : Prop where
  settled : e.Settled
  scripts : ∀ place step, e.story.stepAt? place = some step → step.Scripted language place
  start : ∀ problem, e.story.nodes.resolve e.story.start = .error problem →
    e = idle e.story e.limit

theorem scripted_play {text : String} {language : Script.Language}
    (hload : Story.load text language = .ok story) (limit : Nat) (calls : List Call) :
    ((idle story limit).play calls).Scripted language := by
  obtain ⟨hstory, hsettled⟩ := reached_play story limit calls
  refine ⟨hsettled, ?_, ?_⟩
  · intro place step hs
    rw [hstory] at hs
    exact Story.scripted_of_load hload hs
  · intro problem hr
    rw [hstory] at hr
    rw [play_of_unresolved_start hr limit calls]
    rfl

/-- If the effect of the chosen option fails, then the call fails with that error and changes
nothing. -/
theorem Scripted.call_of_effectFails {language : Script.Language} (h : e.Scripted language)
    (hf : e.EffectFails c error) : e.call c = e.fail error := by
  cases hf with
  | choose ho hi ha =>
    obtain ⟨prompt, hstep⟩ := ho.step
    obtain rfl := (h.scripts _ _ hstep).eq_of_effect_fails hi ha
    exact (choose_eq_take ho hi).trans (take_of_effect_fails ha)

/-- A call that fails has changed nothing, because it was rejected or an effect failed, or it has
left the engine halted, because a walk failed. -/
theorem Scripted.call_fails {language : Script.Language} (h : e.Scripted language)
    (hresult : (e.call c).result = .error error) :
    (e.Keeps (e.call c) ∧ ((∀ wording, (error.report wording).code ∈ EngineError.rejectionCodes) ∨
        e.EffectFails c error)) ∨
      ((e.call c).engine.status = .halted ∧ e.story.WalkFails error) := by
  have hcalled := e.called c
  generalize ho : e.call c = o at hcalled hresult ⊢
  cases hcalled with
  | refused hrefuses =>
    obtain rfl := Except.error.inj hresult
    rw [← ho] at hresult
    exact .inl ⟨keeps_fail e _, .inl (hrefuses.code_mem h.settled hresult)⟩
  | ignored _ _ => exact absurd hresult (by simp)
  | unrestarted hr =>
    obtain rfl := Except.error.inj hresult
    refine .inl ⟨⟨(h.start _ hr).symm, rfl⟩, .inl fun wording => ?_⟩
    simp [EngineError.report, EngineError.rejectionCodes]
  | effectFailed hoffers hi ha =>
    obtain rfl := Except.error.inj hresult
    have hf : e.EffectFails _ _ := .choose hoffers hi ha
    rw [← ho, h.call_of_effectFails hf]
    exact .inl ⟨keeps_fail e _, .inr hf⟩
  | stranded _ _ _ _ _ => exact absurd hresult (by simp)
  | walked hd => exact .inr (halted_of_walk_fails hresult)

/-- What a call may do to an engine if it fails, and after the story is over. -/
structure Contained (e : Engine) (c : Call) : Prop where
  rejected : ∀ error wording, (e.call c).result = .error error →
    (error.report wording).code ∈ EngineError.rejectionCodes → e.Keeps (e.call c)
  effectFailed : ∀ error, e.EffectFails c error →
    (e.call c).result = .error error ∧ e.Keeps (e.call c)
  otherwise : ∀ error wording, (e.call c).result = .error error →
    (error.report wording).code ∉ EngineError.rejectionCodes → ¬ e.EffectFails c error →
      (e.call c).engine.status = .halted
  finished : ∀ signal, c.signal? = some signal → e.status = .ended ∨ e.status = .halted →
    (e.call c).result = .ok () ∧ e.Keeps (e.call c)

/-- Whatever has been called before, a call that fails is contained: it changes nothing if it was
rejected or if the effect of the chosen option failed, and it leaves the engine halted otherwise.
After the story is over, signals succeed and change nothing. -/
theorem failures_contained {text : String} {language : Script.Language} {story : Story}
    (hload : Story.load text language = .ok story) (limit : Nat) (calls : List Call) (c : Call) :
    ((idle story limit).play calls).Contained c := by
  have h := scripted_play hload limit calls
  generalize (idle story limit).play calls = e at h
  refine ⟨?_, ?_, ?_, ?_⟩
  · intro error wording hresult hcode
    rcases h.call_fails hresult with ⟨hkeeps, -⟩ | ⟨-, hwalk⟩
    · exact hkeeps
    · exact absurd hcode (code_notMem_of_walkFails h.scripts hwalk wording)
  · intro error heffect
    rw [h.call_of_effectFails heffect]
    exact ⟨rfl, keeps_fail e error⟩
  · intro error wording hresult hcode heffect
    rcases h.call_fails hresult with ⟨-, hmem | hfails⟩ | ⟨hhalted, -⟩
    · exact absurd (hmem wording) hcode
    · exact absurd hfails heffect
    · exact hhalted
  · intro signal hsignal hover
    have hf : e.status.isFinished = true := by
      rcases hover with hs | hs <;> rw [hs] <;> rfl
    rw [call_of_finished hsignal hf]
    exact ⟨rfl, rfl, rfl⟩

/-- A document whose only option has an effect that fails after it has set a variable. -/
def failingEffect : String :=
  "\x7b\"start\":\"A\",\"nodes\":\x7b\"A\":[\x7b\"kind\":\"choice\",\"options\":" ++
    "[[\"Go\",null,\"vars.n = 1; throw 2;\"]]\x7d]\x7d\x7d"

/-- The script of that effect. -/
def failingProgram : List Script.Stmt :=
  [.assign "vars" [.property false "n"] none (.literal (.int 1)), .throwError (.literal (.int 2))]

/-- The story that the document describes. -/
def failingStory : Story where
  start := "A"
  vars := none
  nodes := .group [("A", .leaf [.choice none [⟨some "Go", none,
    some (Script.Language.own.effect failingProgram (.option "A" 0 0))⟩]])]
  characters := []
  places := []

/-- The failure of an effect is contained, although the effect has set a variable before. -/
theorem failures_contained_of_effect :
    Story.load failingEffect .own = .ok failingStory ∧
      (((idle failingStory 5).play [.start]).call (.choose 0)).result =
        .error (.author (.runtime .thrown (.option "A" 0 0))) ∧
      ((idle failingStory 5).play [.start]).Contained (.choose 0) := by
  have hload : Story.load failingEffect .own = .ok failingStory := by cbv
  have hresult : (((idle failingStory 5).play [.start]).call (.choose 0)).result =
      .error (.author (.runtime .thrown (.option "A" 0 0))) := by cbv
  exact ⟨hload, hresult, failures_contained hload 5 [.start] (.choose 0)⟩

end Playback.Engine

end BranchingStory
