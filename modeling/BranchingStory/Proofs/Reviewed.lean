import BranchingStory.Playback.Opening
import BranchingStory.Proofs.Foreseen
import BranchingStory.Proofs.Settled
import Mathlib

/-!
# Playing a story that has been reviewed

A warning that playback gives about a step has been announced by the review of the story
(`warnings_announced`). If the review has no errors, then the story starts, no step leads nowhere,
and playback halts only because something failed or because a node has no more steps
(`review_sound`).
-/

namespace BranchingStory

open Playback Review

namespace Playback.Engine

variable {story : Story} {e : Engine}

/-! ## Halting -/

/-- An engine is just after the last step of a node. -/
def AtEnd (e : Engine) : Prop :=
  ∃ place steps, e.cursor = some place ∧ e.story.nodes.resolve place.node = .ok steps ∧
    place.index = steps.length

/-- A call of a run has halted the engine because a walk went over its limit or a function of the
author failed, and the engine has not moved since. -/
def FailedIn (e : Engine) (calls : List Call) : Prop :=
  ∃ before c after error, calls = before ++ c :: after ∧ .restart ∉ after ∧
    ((e.play before).status = .halted → c = .restart) ∧
    ((e.play before).call c).engine = e.play calls ∧
    ((e.play before).call c).result = .error error ∧ error.isRefusal = false

/-- If a call has halted the engine, then it has failed or the engine is at the end of a node. -/
def HaltsWell (o : Outcome) : Prop :=
  o.engine.status = .halted →
    (∃ error, o.result = .error error ∧ error.isRefusal = false) ∨ o.engine.AtEnd

theorem haltsWellRule (hconn : story.Connected) (limit : Nat) :
    WalkRule story limit (fun _ _ place => story.Holds place) HaltsWell where
  tripped _ _ := .inl ⟨_, rfl, rfl⟩
  lost h hr := by
    obtain ⟨steps, hok, -⟩ := h
    exact absurd (hr.symm.trans hok) (by simp)
  exhausted {events scene place steps} h hr hlen := by
    obtain ⟨found, hok, hle⟩ := h
    obtain rfl := Except.ok.inj (hr.symm.trans hok)
    exact fun _ => .inr ⟨place, steps, rfl, hr, Nat.le_antisymm hle hlen⟩
  next _ hs _ := Story.holds_next hs
  goTo _ _ hm := Story.holds_goTo hm
  pause _ _ hm hh := absurd hh (Story.awaits_of_pause hm).ne_halted
  halt {events scene place step} _ hs hm := by
    obtain ⟨complaint, hf, ht⟩ := Story.fault_of_halt hm
    exact absurd hf (hconn place step complaint hs ht)
  fail _ _ _ _ := .inl ⟨_, rfl, rfl⟩

/-- In a story whose steps lead somewhere, a call that halts the engine halts it well. -/
theorem Called.haltsWell {c : Call} {o : Outcome} (hcalled : e.Called c o) (h : e.Settled)
    (hconn : e.story.Connected) (hc : e.status = .halted → c = .restart) : HaltsWell o := by
  cases hcalled with
  | refused hr => exact fun hh => absurd (hc hh) hr.ne_restart
  | ignored hsignal _ => exact fun hh => absurd (hc hh) (Call.ne_restart_of_signal hsignal)
  | unrestarted _ => exact fun hh => absurd hh (by simp [idle])
  | effectFailed ho _ _ => exact fun hh => absurd (ho.status.symm.trans hh) (by simp)
  | @stranded index place options o vars target problem ho hi ha ht hr =>
    obtain ⟨step, hs, hf⟩ := fault_of_offers ho hi ht hr
    exact absurd hf (hconn place step _ hs rfl)
  | walked hd => exact Story.walk_spec (haltsWellRule hconn e.limit) _ (hd.holds h).1

theorem failedIn_or_atEnd (hconn : story.Connected) (limit : Nat) (calls : List Call)
    (hh : ((idle story limit).play calls).status = .halted) :
    (idle story limit).FailedIn calls ∨ ((idle story limit).play calls).AtEnd := by
  induction calls using List.reverseRecOn with
  | nil => exact absurd hh (by simp [idle])
  | append_singleton calls c ih =>
    have hplay := play_concat (idle story limit) calls c
    obtain ⟨hstory, hsettled⟩ := reached_play story limit calls
    by_cases hc : ((idle story limit).play calls).status = .halted ∧ c ≠ .restart
    · -- The engine had halted before, so it is the same engine and the same call that halted it.
      have hsame := hplay.trans (engine_call_of_halted hc.1 hc.2)
      rcases ih hc.1 with ⟨before, c', after, error, hcalls, hafter, hrest⟩ | hend
      · refine .inl ⟨before, c', after ++ [c], error, by rw [hcalls]; simp, ?_, ?_⟩
        · simp [hafter, hc.2.symm]
        · rw [hsame]
          exact hrest
      · rw [hsame]
        exact .inr hend
    · have hfirst : ((idle story limit).play calls).status = .halted → c = .restart := by
        intro h
        by_contra hne
        exact hc ⟨h, hne⟩
      rw [← hstory] at hconn
      have hwell := (((idle story limit).play calls).called c).haltsWell hsettled hconn hfirst
      rw [hplay] at hh ⊢
      rcases hwell hh with ⟨error, hresult, herror⟩ | hend
      · exact .inl ⟨calls, c, [], error, rfl, List.not_mem_nil, hfirst, hplay.symm, hresult, herror⟩
      · exact .inr hend

/-! ## Starting -/

/-- A call finds the node to start with missing only if it is missing. -/
theorem Called.start_missing {c : Call} {o : Outcome} {start : String}
    {problem : NodeTree.AddressProblem} (hcalled : e.Called c o)
    (h : o.result = .error (.startUnresolved start problem)) :
    ∃ problem, e.story.nodes.resolve e.story.start = .error problem := by
  cases hcalled with
  | refused hr =>
    obtain rfl := Except.error.inj h
    cases hr with
    | startUnresolved hs hr => exact ⟨_, hr⟩
  | ignored _ _ => exact absurd h (by simp)
  | unrestarted hr => exact ⟨_, hr⟩
  | effectFailed _ _ _ => exact absurd h (by simp)
  | stranded _ _ _ _ _ => exact absurd h (by simp)
  | walked _ => exact absurd (isRefusal_of_walk h) (by simp [EngineError.isRefusal])

/-! ## Stories that were loaded -/

/-- Whenever playback of a story that was loaded warns about a step, other than by telling that a
function of the author failed, the review of the story has a finding about that step. -/
theorem warnings_announced {text : String} {language : Script.Language} {story : Story}
    (hload : Story.load text language = .ok story) (wording : Wording) (limit : Nat)
    (calls : List Call) (c : Call) {event : Event} {line : LogLine}
    (hevent : event ∈ (((idle story limit).play calls).call c).events)
    (hline : event.line? wording = some line) (hwarn : line.level = .warn)
    (hnot : ∀ place error, event ≠ .failed place error) :
    ∃ (place : Cursor) (rest : String), line.message = place.text ++ ": " ++ rest ∧
      ∃ f ∈ review story, f.location.text = place.text ∨
        ∃ more, f.location.text = place.text ++ "." ++ more := by
  obtain ⟨hstory, hsettled⟩ := reached_play story limit calls
  have hb := (settled_call hsettled c).bearsOut event hevent
  rw [hstory] at hb
  cases event with
  | complained place complaint =>
    obtain ⟨step, hs, hf⟩ := hb
    obtain rfl := Option.some.inj hline
    obtain ⟨f, hmem, hwithin, -⟩ :=
      announce_of_fault (Story.ordered_of_load hload) (Story.dotFree_of_load hload) hs hf
    exact ⟨place, complaint.message, rfl, f, hmem, Location.text_of_within hwithin⟩
  | lost problem => exact hb.elim
  | failed place error => exact absurd rfl (hnot place error)
  | displayed _ | taken _ _ _ => exact absurd hline (by simp [Event.line?])
  | _ =>
    obtain rfl := Option.some.inj hline
    exact absurd hwarn (by simp)

/-- A document whose only step tells a line without a text. -/
def missingText : String :=
  "\x7b\"start\":\"A\",\"nodes\":\x7b\"A\":[\x7b\"kind\":\"narration\"\x7d]\x7d\x7d"

/-- A line without a text is announced and warned about. -/
theorem warning_announced_of_missing_text :
    ∃ story, Story.load missingText .own = .ok story ∧
      ∃ (place : Cursor) (rest : String),
        "A[0]: narration without text skipped" = place.text ++ ": " ++ rest ∧
        ∃ f ∈ review story, f.location.text = place.text ∨
          ∃ more, f.location.text = place.text ++ "." ++ more := by
  have hload : Story.load missingText .own =
      .ok ⟨"A", none, .group [("A", .leaf [.narration none])], [], []⟩ := by
    cbv
  refine ⟨_, hload, ?_⟩
  have hevent : Event.complained ⟨"A", 0⟩ .noNarrationText ∈
      (((idle ⟨"A", none, .group [("A", .leaf [.narration none])], [], []⟩ 5).play []).call
        .start).events :=
    .tail _ (.tail _ (.head _))
  exact warnings_announced hload .own 5 [] .start hevent rfl rfl (by simp)

/-- What a review without errors promises about an engine after a run, and about the next call: the
story starts, the targets of all steps are there and none is complained about, and the engine has
halted only because something failed or because it is at the end of a node. -/
structure Unhindered (e : Engine) (calls : List Call) : Prop where
  starts : ∀ c start problem,
    ((e.play calls).call c).result ≠ .error (.startUnresolved start problem)
  targets : ∀ place step target, e.story.stepAt? place = some step → target ∈ step.targets →
    ∃ steps, e.story.nodes.resolve target = .ok steps
  resolves : ∀ c place complaint,
    Event.complained place complaint ∈ ((e.play calls).call c).events →
      complaint.isAboutTarget = false
  halts : (e.play calls).status = .halted → e.FailedIn calls ∨ (e.play calls).AtEnd

/-- A gate that is not off lets no story through whose review has errors. -/
theorem no_errors_of_admit {gate : Gate} (hgate : gate ≠ .off) {findings : List Finding}
    (h : gate.admit story = .ok findings) : hasErrors (review story) = false := by
  unfold Gate.admit at h
  dsimp only at h
  split at h
  · exact absurd h (by simp)
  · next hb =>
    cases gate with
    | off => exact absurd rfl hgate
    | errors => exact Bool.eq_false_iff.2 hb
    | warnings =>
      rw [Gate.blocks, Bool.or_eq_true] at hb
      exact Bool.eq_false_iff.2 fun he => hb (.inl he)

/-- If opening a story fails because of the engine, then the gate has let the story through and the
engine has refused to start. -/
theorem start_of_openStory {wording : Wording} {gate : Gate} {limit : Nat} {error : EngineError}
    (h : (openStory wording gate limit story).result = .error (.engine error)) :
    (∃ findings, gate.admit story = .ok findings) ∧
      (idle story limit).start.result = .error error := by
  rw [openStory] at h
  cases ha : gate.admit story with
  | error blocked =>
    rw [ha] at h
    exact absurd h (by simp)
  | ok findings =>
    rw [ha] at h
    dsimp only at h
    refine ⟨⟨findings, rfl⟩, ?_⟩
    split at h
    · next error' he =>
      obtain rfl := OpeningError.engine.inj (Except.error.inj h)
      exact he
    · exact absurd h (by simp)

theorem unhindered_of_no_errors (hconn : story.Connected)
    (hstart : ∃ steps, story.nodes.resolve story.start = .ok steps) (limit : Nat)
    (calls : List Call) : Unhindered (idle story limit) calls := by
  obtain ⟨hstory, hsettled⟩ := reached_play story limit calls
  refine ⟨?_, ?_, ?_, failedIn_or_atEnd hconn limit calls⟩
  · intro c start problem hresult
    obtain ⟨problem', hr⟩ := (Engine.called _ c).start_missing hresult
    obtain ⟨steps, hok⟩ := hstart
    rw [hstory] at hr
    exact absurd (hr.symm.trans hok) (by simp)
  · intro place step target hs ht
    cases hr : story.nodes.resolve target with
    | ok steps => exact ⟨steps, hr⟩
    | error problem => exact absurd (.unresolvedTarget ht hr) (hconn place step _ hs rfl)
  · intro c place complaint hevent
    obtain ⟨step, hs, hf⟩ := (settled_call hsettled c).bearsOut _ hevent
    rw [hstory] at hs hf
    by_contra ht
    exact hconn place step complaint hs (by simpa using ht) hf

/-- A review without errors is sound: playing a story that was loaded is unhindered then. So a story
that a gate lets through, unless the gate is off, always starts. -/
theorem review_sound {text : String} {language : Script.Language} {story : Story}
    (hload : Story.load text language = .ok story) :
    (hasErrors (review story) = false →
        ∀ limit calls, Unhindered (idle story limit) calls) ∧
      ∀ wording gate limit start problem, gate ≠ .off →
        (openStory wording gate limit story).result ≠
          .error (.engine (.startUnresolved start problem)) := by
  have hunhindered : hasErrors (review story) = false →
      ∀ limit calls, Unhindered (idle story limit) calls := by
    intro he
    exact unhindered_of_no_errors (connected_of_no_errors (Story.ordered_of_load hload)
      (Story.dotFree_of_load hload) he) (resolve_start_of_no_errors he)
  refine ⟨hunhindered, ?_⟩
  intro wording gate limit start problem hgate hresult
  obtain ⟨⟨findings, hadmit⟩, hstart⟩ := start_of_openStory hresult
  have he := no_errors_of_admit hgate hadmit
  exact (hunhindered he limit []).starts .start start problem hstart

/-- A document whose only step tells a line. -/
def oneLine : String :=
  "\x7b\"start\":\"A\",\"nodes\":\x7b\"A\":[\x7b\"kind\":\"narration\",\"text\":\"Hi\"\x7d]\x7d\x7d"

/-- A story of one line has warnings but no errors; it is played to the end of its node. -/
theorem review_sound_of_one_line :
    ∃ story, Story.load oneLine .own = .ok story ∧
      hasErrors (review story) = false ∧
      ((idle story 5).play [.start, .advance]).status = .halted ∧
      Unhindered (idle story 5) [.start, .advance] ∧
      (openStory .own .errors 5 story).result ≠
        .error (.engine (.startUnresolved "A" (.isGroup "A"))) := by
  have hload : Story.load oneLine .own =
      .ok ⟨"A", none, .group [("A", .leaf [.narration (some "Hi")])], [], []⟩ := by
    cbv
  have he : hasErrors (review
      ⟨"A", none, .group [("A", .leaf [.narration (some "Hi")])], [], []⟩) = false := by
    decide
  obtain ⟨hplay, hopen⟩ := review_sound hload
  exact ⟨_, hload, he, rfl, hplay he 5 _, hopen .own .errors 5 _ _ (by decide)⟩

end Playback.Engine

end BranchingStory
