import BranchingStory.Proofs.Walk

/-!
# What comes of a call

A call is refused and changes nothing, comes too late and changes nothing, fails in the effect of an
option, strands at the target of an option, or sends the engine on a walk. `Engine.called` says that
this is all, and under which conditions each of these happens.
-/

namespace BranchingStory

open Playback

/-- What choosing an option does to the variables. -/
def ChoiceOption.apply (o : ChoiceOption) (vars : Variables) :
    Variables × Except AuthorError Unit :=
  match o.effect with
  | some effect => effect vars
  | none => (vars, .ok ())

namespace Playback

/-- Whether an error says that a call is refused, and not that a walk or an effect has failed. -/
def EngineError.isRefusal : EngineError → Bool
  | .limitExceeded _ _ => false
  | .author _ => false
  | _ => true

namespace Engine

/-- The signal that a call gives, if it gives one. -/
def Call.signal? : Call → Option Signal
  | .advance => some .advance
  | .choose index => some (.choose index)
  | _ => none

/-- An engine waits at a place for one of some options to be chosen. -/
structure Offers (e : Engine) (place : Cursor) (options : List ChoiceOption) : Prop where
  status : e.status = .awaitingChoice
  cursor : e.cursor = some place
  step : ∃ prompt, e.story.stepAt? place = some (.choice prompt options)

/-- An engine offers the options of one choice. -/
theorem Offers.unique {e : Engine} {place place' : Cursor}
    {options options' : List ChoiceOption} (h : e.Offers place options)
    (h' : e.Offers place' options') : place' = place ∧ options' = options := by
  obtain ⟨prompt, hs⟩ := h.step
  obtain ⟨prompt', hs'⟩ := h'.step
  obtain rfl := Option.some.inj (h.cursor.symm.trans h'.cursor)
  obtain ⟨-, rfl⟩ := Step.choice.inj (Option.some.inj (hs.symm.trans hs'))
  exact ⟨rfl, rfl⟩

/-- The calls that an engine refuses, and why. -/
inductive Refuses (e : Engine) : Call → EngineError → Prop
  | alreadyStarted (hs : e.status ≠ .idle) : Refuses e .start .alreadyStarted
  | startUnresolved {problem : NodeTree.AddressProblem} (hs : e.status = .idle)
      (hr : e.story.nodes.resolve e.story.start = .error problem) :
      Refuses e .start (.startUnresolved e.story.start problem)
  | notAwaitingAdvance (hf : e.status.isFinished = false)
      (hw : ∀ place, e.status = .awaitingAdvance → e.cursor ≠ some place) :
      Refuses e .advance (.notAwaitingAdvance e.status e.cursor)
  | notAwaitingChoice {index : Nat} (hf : e.status.isFinished = false)
      (hw : ∀ place, e.status = .awaitingChoice → e.cursor ≠ some place) :
      Refuses e (.choose index) (.notAwaitingChoice e.status e.cursor)
  | nodeMissing {index : Nat} {place : Cursor} {problem : NodeTree.AddressProblem}
      (hs : e.status = .awaitingChoice) (hc : e.cursor = some place)
      (hr : e.story.nodes.resolve place.node = .error problem) :
      Refuses e (.choose index) (.nodeMissing problem)
  | choiceMissing {index : Nat} {place : Cursor} (hs : e.status = .awaitingChoice)
      (hc : e.cursor = some place)
      (hn : ∀ prompt options, e.story.stepAt? place ≠ some (.choice prompt options)) :
      Refuses e (.choose index) (.choiceMissing (some place))
  | optionOutOfRange {index : Nat} {place : Cursor} {options : List ChoiceOption}
      (ho : e.Offers place options) (hi : options.length ≤ index) :
      Refuses e (.choose index) (.optionOutOfRange index options.length (some place))

theorem Refuses.ne_restart {e : Engine} {c : Call} {error : EngineError}
    (h : e.Refuses c error) : c ≠ .restart := by
  rintro rfl
  cases h

theorem Call.ne_restart_of_signal {c : Call} {signal : Signal} (h : c.signal? = some signal) :
    c ≠ .restart := by
  rintro rfl
  exact absurd h (by simp [signal?])

/-- The calls that send an engine on a walk: what happens before, and where the walk starts. -/
inductive Departs (e : Engine) : Call → List Event → Scene → Cursor → Prop
  | start {steps : List Step} (hs : e.status = .idle)
      (hr : e.story.nodes.resolve e.story.start = .ok steps) :
      Departs e .start [.starting e.story.start] e.scene (.first e.story.start)
  | restart {steps : List Step} (hr : e.story.nodes.resolve e.story.start = .ok steps) :
      Departs e .restart [.restarting, .starting e.story.start] (openingScene e.story)
        (.first e.story.start)
  | advance {place : Cursor} (hs : e.status = .awaitingAdvance) (hc : e.cursor = some place) :
      Departs e .advance [] e.scene place.next
  | goOn {index : Nat} {place : Cursor} {options : List ChoiceOption} {o : ChoiceOption}
      {vars : Variables} (ho : e.Offers place options) (hi : options[index]? = some o)
      (ha : o.apply e.scene.vars = (vars, .ok ())) (ht : o.target = none) :
      Departs e (.choose index) [.taken place index o] { e.scene with vars } place.next
  | leave {index : Nat} {place : Cursor} {options : List ChoiceOption} {o : ChoiceOption}
      {vars : Variables} {target : String} {steps : List Step} (ho : e.Offers place options)
      (hi : options[index]? = some o) (ha : o.apply e.scene.vars = (vars, .ok ()))
      (ht : o.target = some target) (hr : e.story.nodes.resolve target = .ok steps) :
      Departs e (.choose index) [.taken place index o, .moved place target] { e.scene with vars }
        (.first target)

/-- What comes of a call. -/
inductive Called (e : Engine) : Call → Outcome → Prop
  /-- The call is refused. -/
  | refused {c : Call} {error : EngineError} (h : e.Refuses c error) : Called e c (e.fail error)
  /-- The call comes too late. -/
  | ignored {c : Call} {signal : Signal} (hc : c.signal? = some signal)
      (hf : e.status.isFinished = true) : Called e c ⟨e, .ok (), [.ignored signal e.status]⟩
  /-- The story cannot be started again. -/
  | unrestarted {problem : NodeTree.AddressProblem}
      (hr : e.story.nodes.resolve e.story.start = .error problem) :
      Called e .restart ⟨idle e.story e.limit, .error (.startUnresolved e.story.start problem),
        [.restarting]⟩
  /-- The effect of the option that was chosen fails. -/
  | effectFailed {index : Nat} {place : Cursor} {options : List ChoiceOption} {o : ChoiceOption}
      {vars : Variables} {error : AuthorError} (ho : e.Offers place options)
      (hi : options[index]? = some o) (ha : o.apply e.scene.vars = (vars, .error error)) :
      Called e (.choose index) ⟨{ e with scene := { e.scene with vars } },
        .error (.author error), []⟩
  /-- The node that the chosen option leads to is not there. -/
  | stranded {index : Nat} {place : Cursor} {options : List ChoiceOption} {o : ChoiceOption}
      {vars : Variables} {target : String} {problem : NodeTree.AddressProblem}
      (ho : e.Offers place options) (hi : options[index]? = some o)
      (ha : o.apply e.scene.vars = (vars, .ok ())) (ht : o.target = some target)
      (hr : e.story.nodes.resolve target = .error problem) :
      Called e (.choose index) ⟨{ e with scene := { e.scene with vars }, status := .halted },
        .ok (), [.taken place index o, .complained place (.unresolvedTarget problem)]⟩
  /-- The engine walks on. -/
  | walked {c : Call} {events : List Event} {scene : Scene} {place : Cursor}
      (h : e.Departs c events scene place) :
      Called e c ((e.story.walk e.limit scene place).after events)

/-! ## The single calls -/

theorem start_of_resolved {e : Engine} {steps : List Step} (hs : e.status = .idle)
    (hr : e.story.nodes.resolve e.story.start = .ok steps) :
    e.start = (e.walk (.first e.story.start)).after [.starting e.story.start] := by
  rw [start, if_pos hs, hr]

theorem called_start (e : Engine) : e.Called .start e.start := by
  rw [start]
  split
  · next hs =>
    split
    · next problem hr => exact .refused (.startUnresolved hs hr)
    · next steps hr =>
      rw [walk_eq]
      exact .walked (.start hs hr)
  · next hs => exact .refused (.alreadyStarted hs)

theorem called_restart (e : Engine) : e.Called .restart e.restart := by
  have hs : (idle e.story e.limit).status = .idle := rfl
  rw [restart, start, if_pos hs]
  split
  · next problem hr =>
    rw [fail_after]
    exact .unrestarted hr
  · next steps hr =>
    rw [Outcome.after_after, walk_eq]
    exact .walked (.restart hr)

theorem called_advance (e : Engine) : e.Called .advance e.advance := by
  rw [advance]
  split
  · next place hs hc =>
    rw [walk_eq]
    exact .walked (.advance hs hc)
  · next hs =>
    rw [done_after, ← hs]
    exact .ignored rfl (by rw [hs]; rfl)
  · next hs =>
    rw [done_after, ← hs]
    exact .ignored rfl (by rw [hs]; rfl)
  · next he hh hw =>
    refine .refused (.notAwaitingAdvance ?_ hw)
    cases hs : e.status <;> simp_all [Status.isFinished]

/-- What comes of an option that was chosen, once its effect has been applied. -/
theorem called_leaveChoice {e : Engine} {index : Nat} {place : Cursor}
    {options : List ChoiceOption} {o : ChoiceOption} {vars : Variables}
    (ho : e.Offers place options) (hi : options[index]? = some o)
    (ha : o.apply e.scene.vars = (vars, .ok ())) :
    e.Called (.choose index)
      ((({ e with scene := { e.scene with vars } } : Engine).leaveChoice place o.target).after
        [.taken place index o]) := by
  cases ht : o.target with
  | none =>
    rw [leaveChoice, walk_eq]
    exact .walked (.goOn ho hi ha ht)
  | some target =>
    rw [leaveChoice, Story.transfer]
    cases hr : e.story.nodes.resolve target with
    | error problem => exact .stranded ho hi ha ht hr
    | ok steps =>
      dsimp only
      rw [Outcome.after_after, walk_eq]
      exact .walked (.leave ho hi ha ht hr)

theorem called_take {e : Engine} {index : Nat} {place : Cursor} {options : List ChoiceOption}
    {o : ChoiceOption} (ho : e.Offers place options) (hi : options[index]? = some o) :
    e.Called (.choose index) (e.take place index o) := by
  rw [take]
  cases he : o.effect with
  | none => exact called_leaveChoice ho hi (by rw [ChoiceOption.apply, he])
  | some effect =>
    dsimp only
    have ha : o.apply e.scene.vars = effect e.scene.vars := by rw [ChoiceOption.apply, he]
    rcases hv : effect e.scene.vars with ⟨vars, result⟩
    cases result with
    | error error => exact .effectFailed ho hi (ha.trans hv)
    | ok _ => exact called_leaveChoice ho hi (ha.trans hv)

theorem called_choose (e : Engine) (index : Nat) : e.Called (.choose index) (e.choose index) := by
  rw [choose]
  split
  · next place hs hc =>
    split
    · next problem hr => exact .refused (.nodeMissing hs hc hr)
    · next steps hr =>
      split
      · next prompt options hstep =>
        have ho : e.Offers place options :=
          ⟨hs, hc, prompt, Story.stepAt?_eq_some_iff.2 ⟨steps, hr, hstep⟩⟩
        split
        · next o hi => exact called_take ho hi
        · next hi => exact .refused (.optionOutOfRange ho (List.getElem?_eq_none_iff.1 hi))
      · next hn =>
        refine .refused (.choiceMissing hs hc fun prompt options hstep => ?_)
        obtain ⟨found, hf, hstep⟩ := Story.stepAt?_eq_some_iff.1 hstep
        rw [hr] at hf
        exact hn prompt options (Except.ok.inj hf ▸ hstep)
  · next hs =>
    rw [done_after, ← hs]
    exact .ignored rfl (by rw [hs]; rfl)
  · next hs =>
    rw [done_after, ← hs]
    exact .ignored rfl (by rw [hs]; rfl)
  · next he hh hw =>
    refine .refused (.notAwaitingChoice ?_ hw)
    cases hs : e.status <;> simp_all [Status.isFinished]

/-- Every call comes to one of these. -/
theorem called (e : Engine) (c : Call) : e.Called c (e.call c) := by
  cases c with
  | start => exact called_start e
  | advance => exact called_advance e
  | choose index => exact called_choose e index
  | restart => exact called_restart e

/-! ## Calls that come too late -/

theorem call_of_finished {e : Engine} {c : Call} {signal : Signal} (hc : c.signal? = some signal)
    (hf : e.status.isFinished = true) : e.call c = ⟨e, .ok (), [.ignored signal e.status]⟩ := by
  cases c with
  | start | restart => exact absurd hc (by simp [Call.signal?])
  | advance =>
    obtain rfl := Option.some.inj hc
    show e.advance = _
    rw [advance]
    cases hs : e.status <;> simp_all [Status.isFinished]
  | choose index =>
    obtain rfl := Option.some.inj hc
    show e.choose index = _
    rw [choose]
    cases hs : e.status <;> simp_all [Status.isFinished]

theorem start_of_started {e : Engine} (hs : e.status ≠ .idle) :
    e.start = e.fail .alreadyStarted := by
  rw [start, if_neg hs]

/-- Once an engine has halted, only a restart moves it. -/
theorem engine_call_of_halted {e : Engine} {c : Call} (hs : e.status = .halted)
    (hc : c ≠ .restart) : (e.call c).engine = e := by
  have hf : e.status.isFinished = true := by rw [hs]; rfl
  cases c with
  | start =>
    show e.start.engine = e
    rw [start_of_started (by simp [hs]), fail]
  | advance => rw [call_of_finished rfl hf]
  | choose index => rw [call_of_finished rfl hf]
  | restart => exact absurd rfl hc

/-! ## Refusals -/

theorem refusalRule (story : Story) (limit : Nat) :
    WalkRule story limit (fun _ _ _ => True)
      (fun o => ∀ error, o.result = .error error → error.isRefusal = false) where
  tripped _ error h := Except.error.inj h ▸ rfl
  lost _ _ error h := absurd h (by simp)
  exhausted _ _ _ error h := absurd h (by simp)
  next _ _ _ := trivial
  goTo _ _ _ := trivial
  pause _ _ _ error h := absurd h (by simp)
  halt _ _ _ error h := absurd h (by simp)
  fail _ _ _ error h := Except.error.inj h ▸ rfl

/-- A walk fails only because of its limit or a function of the author. -/
theorem isRefusal_of_walk {story : Story} {limit : Nat} {scene : Scene} {place : Cursor}
    {error : EngineError} (h : (story.walk limit scene place).result = .error error) :
    error.isRefusal = false :=
  Story.walk_spec (refusalRule story limit) [] trivial error h

theorem Called.refuses {e : Engine} {c : Call} {o : Outcome} {error : EngineError}
    (hcalled : e.Called c o) (hc : c ≠ .restart) (h : o.result = .error error)
    (hr : error.isRefusal = true) : e.Refuses c error ∧ o = e.fail error := by
  cases hcalled with
  | refused hrefuses =>
    obtain rfl := Except.error.inj h
    exact ⟨hrefuses, rfl⟩
  | ignored _ _ => exact absurd h (by simp)
  | unrestarted _ => exact absurd rfl hc
  | effectFailed _ _ _ =>
    obtain rfl := Except.error.inj h
    exact absurd hr (by simp [EngineError.isRefusal])
  | stranded _ _ _ _ _ => exact absurd h (by simp)
  | walked _ => exact absurd hr (by simp [isRefusal_of_walk h])

/-- An error that says that a call is refused is told by refusals only. -/
theorem refuses_of_result {e : Engine} {c : Call} {error : EngineError} (hc : c ≠ .restart)
    (h : (e.call c).result = .error error) (hr : error.isRefusal = true) :
    e.Refuses c error ∧ e.call c = e.fail error :=
  (e.called c).refuses hc h hr

end Engine

end Playback

end BranchingStory
