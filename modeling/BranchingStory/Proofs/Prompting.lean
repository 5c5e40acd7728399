import BranchingStory.Proofs.Failures
import BranchingStory.Proofs.ScriptedSessions

/-!
# Prompting

A session asks for a line as long as its engine waits, and an engine that has been started waits or
has stopped, whatever was entered. So a session comes to an end with its input (`plays_session`): it
asks once for each line and at most once more, and each line is at most one call of the engine. A
line that asks for help, and one that is no number of an option, is no call or one that is refused,
and the session asks again as if it had not been entered.

A call of the engine can fail in three ways. It is refused, the effect of an option fails and
nothing but the variables has changed, or a walk fails and the engine is halted. A session goes on
only after the first two, if at all, so it always waits where the last call that did not fail has
led it.
-/

namespace BranchingStory

open Playback Playback.Engine

/-! ## Engines that have been started -/

/-- An engine that has been started, between two calls. -/
structure Playback.Engine.Started (e : Engine) : Prop where
  settled : e.Settled
  ne_idle : e.status ≠ .idle

namespace Playback.Engine

variable {e : Engine} {c : Call}

theorem neverIdleRule (story : Story) (limit : Nat) :
    WalkRule story limit (fun _ _ _ => True) (fun o => o.engine.status ≠ .idle) where
  tripped _ := by simp
  lost _ _ := by simp
  exhausted _ _ _ := by simp
  next _ _ _ := trivial
  goTo _ _ _ := trivial
  pause _ _ hm := (Story.awaits_of_pause hm).ne_idle
  halt _ _ _ := by simp
  fail _ _ _ := by simp

/-- Only a restart that fails leaves an engine that is not started. -/
theorem Started.call (h : e.Started) (hc : (e.call c).result = .ok () ∨ c ≠ .restart) :
    (e.call c).engine.Started := by
  refine ⟨(settled_call h.settled c).settled, ?_⟩
  have hcalled := e.called c
  generalize e.call c = o at hcalled hc
  cases hcalled with
  | refused _ | ignored _ _ => exact h.ne_idle
  | unrestarted _ =>
    rcases hc with hok | hne
    · exact absurd hok (by simp)
    · exact absurd rfl hne
  | effectFailed _ _ _ => exact h.ne_idle
  | stranded _ _ _ _ _ => simp
  | walked _ => exact Story.walk_spec (neverIdleRule e.story e.limit) _ trivial

/-- An engine that waits for the player. -/
def Waits (e : Engine) : Prop :=
  e.status = .awaitingAdvance ∨ e.status = .awaitingChoice

theorem Waits.not_finished (h : e.Waits) : e.status.isFinished = false := by
  rcases h with hs | hs <;> rw [hs] <;> rfl

end Playback.Engine

namespace Console

variable {wording : Wording} {e e' e'' : Engine} {c : Call} {t : Turn} {line : InputLine}
  {input : List InputLine}

/-- An effect of a story fails with the code for options that are not there. -/
def Misleads (wording : Wording) (story : Story) : Prop :=
  ∃ place prompt options, story.stepAt? place = some (.choice prompt options) ∧
    ∃ o ∈ options, ∃ vars error, (o.apply vars).2 = .error error ∧
      (error.report wording).code = noOptionCode

/-- An engine rests where another one is. The variables are the same too, unless an effect of the
story fails with the code for options that are not there. -/
structure Rests (wording : Wording) (e e' : Engine) : Prop where
  story : e'.story = e.story
  status : e'.status = e.status
  cursor : e'.cursor = e.cursor
  stage : e'.scene.stage = e.scene.stage
  vars : ¬ Misleads wording e.story → e'.scene.vars = e.scene.vars

theorem Rests.refl (wording : Wording) (e : Engine) : Rests wording e e :=
  ⟨rfl, rfl, rfl, rfl, fun _ => rfl⟩

theorem Rests.trans (h : Rests wording e e') (h' : Rests wording e' e'') :
    Rests wording e e'' where
  story := h'.story.trans h.story
  status := h'.status.trans h.status
  cursor := h'.cursor.trans h.cursor
  stage := h'.stage.trans h.stage
  vars hm := (h'.vars (h.story.symm ▸ hm)).trans (h.vars hm)

/-- A choice that is turned down, and after which the engine still waits, was refused, or an effect
has failed. -/
theorem rests_of_choose {index : Nat} {error : EngineError}
    (hr : (e.choose index).result = .error error)
    (hcode : (error.report wording).code = noOptionCode) (hw : (e.choose index).engine.Waits) :
    Rests wording e (e.choose index).engine := by
  have hcalled := e.called_choose index
  generalize e.choose index = o at hcalled hr hw
  cases hcalled with
  | refused _ => exact .refl wording e
  | ignored _ _ => exact .refl wording e
  | stranded _ _ _ _ _ => exact absurd hr (by simp)
  | walked _ =>
    have hf := hw.not_finished
    rw [Outcome.after, (halted_of_walk_fails hr).1] at hf
    exact absurd hf Bool.noConfusion
  | @effectFailed _ place options o vars error' ho hi ha =>
    obtain rfl := Except.error.inj hr
    obtain ⟨prompt, hstep⟩ := ho.step
    refine ⟨rfl, rfl, rfl, rfl, fun hm => absurd ?_ hm⟩
    exact ⟨place, prompt, options, hstep, o, List.mem_of_getElem? hi, e.scene.vars, error',
      congrArg Prod.snd ha, hcode⟩

/-! ## Turns -/

/-- A turn ends with an engine: it asks for a line if the engine waits, and does not ask if the
engine has stopped. -/
inductive Turn.Arrives (t : Turn) (e : Engine) : Prop
  | prompt (hn : t.next = .prompt ⟨e, []⟩) (hw : e.Waits) (hc : t.output.count .prompt = 1)
  | finished (hn : t.next = .finished ⟨e, []⟩) (hf : e.status.isFinished = true)
      (hc : t.output.count .prompt = 0)

theorem Turn.Arrives.after (h : t.Arrives e) {output : List Written}
    (hout : output.count .prompt = 0) (told : List LogLine) : (t.after output told).Arrives e := by
  have hcount : (t.after output told).output.count .prompt = t.output.count .prompt := by
    rw [Turn.after, List.count_append, hout, Nat.zero_add]
  cases h with
  | prompt hn hw hc => exact .prompt hn hw (hcount.trans hc)
  | finished hn hf hc => exact .finished hn hf (hcount.trans hc)

theorem arrives_await (h : e.Started) : (await ⟨e, []⟩).Arrives e := by
  have hidle := h.ne_idle
  have hrunning := h.settled.agrees.notRunning
  obtain ⟨story, limit, scene, status, cursor⟩ := e
  cases status with
  | idle => exact absurd rfl hidle
  | running => exact absurd rfl hrunning
  | awaitingAdvance => exact .prompt rfl (.inl rfl) rfl
  | awaitingChoice => exact .prompt rfl (.inr rfl) rfl
  | halted | ended => exact .finished rfl rfl rfl

theorem arrives_settle (h : e.Started) (pending : List String) :
    (settle ⟨e, pending⟩).Arrives e := by
  refine (arrives_await h).after ?_ []
  refine List.count_eq_zero_of_not_mem fun hmem => ?_
  obtain ⟨_, _, heq⟩ := List.mem_map.1 hmem
  exact Written.noConfusion heq

theorem arrives_proceed (h : (e.call c).engine.Started) (hok : (e.call c).result = .ok ()) :
    (proceed wording ⟨e, []⟩ (e.call c)).Arrives (e.call c).engine := by
  rw [proceed, hok]
  exact (arrives_settle h _).after rfl _

/-! ## Answers -/

/-- The engine after the last call that did not fail, when a line has been entered. -/
def accept (e last : Engine) (line : InputLine) : Engine :=
  match call? e line with
  | some c => if (e.call c).result.isOk then (e.call c).engine else last
  | none => last

theorem accept_of_none (hc : call? e line = none) (last : Engine) : accept e last line = last := by
  rw [accept, hc]

theorem accept_of_ok (hc : call? e line = some c) (hok : (e.call c).result = .ok ())
    (last : Engine) : accept e last line = (e.call c).engine := by
  rw [accept, hc]
  dsimp only
  rw [hok]
  rfl

theorem accept_of_error {error : EngineError} (hc : call? e line = some c)
    (hr : (e.call c).result = .error error) (last : Engine) : accept e last line = last := by
  rw [accept, hc]
  dsimp only
  rw [hr]
  rfl

theorem play_of_call? (hc : call? e line = some c) :
    e.play (call? e line).toList = (e.call c).engine := by
  rw [hc]
  rfl

/-- A session goes on after a line, with the engine as the line has left it if it is a call. -/
structure GoesOn (wording : Wording) (e : Engine) (line : InputLine) (t : Turn) : Prop where
  started : (e.play (call? e line).toList).Started
  arrives : t.Arrives (e.play (call? e line).toList)
  /-- An engine that waits where the last call that did not fail has led it still does so. -/
  rests : ∀ last, Rests wording last e → (e.play (call? e line).toList).Waits →
    Rests wording (accept e last line) (e.play (call? e line).toList)

/-- A session ends with a line and does not ask for another one. -/
inductive Closes (e : Engine) (line : InputLine) (t : Turn) : Prop
  /-- The player wishes it. -/
  | quit {text : String} (hl : line = .ok text) (hq : Entry.ofLine text = .quit)
    (hn : t.next = .finished ⟨e, []⟩) (hout : t.output.count .prompt = 0)
  /-- A call fails. -/
  | failed {c : Call} {error : EngineError} (hc : call? e line = some c)
    (hr : (e.call c).result = .error error) (hn : t.next = .failed (.engine error))
    (hout : t.output.count .prompt = 0)
  /-- The line is no text. -/
  | unreadable {error : Files.ReadError} (hl : line = .error error)
    (hn : t.next = .failed (.input error)) (hout : t.output.count .prompt = 0)

/-- What a line does to a session whose engine waits. -/
inductive Answered (wording : Wording) (e : Engine) (line : InputLine) (t : Turn) : Prop
  | goesOn (h : GoesOn wording e line t)
  | closes (h : Closes e line t)

theorem goesOn_of_ok (hc : call? e line = some c) (hok : (e.call c).result = .ok ())
    (hs : (e.call c).engine.Started) (ha : t.Arrives (e.call c).engine) :
    GoesOn wording e line t := by
  rw [← play_of_call? hc] at hs ha
  refine ⟨hs, ha, fun last _ _ => ?_⟩
  rw [accept_of_ok hc hok, play_of_call? hc]
  exact .refl wording _

/-- A session goes on after a choice that fails with the code for options that are not there. -/
theorem goesOn_of_turnedDown {index : Nat} {error : EngineError}
    (hc : call? e line = some (.choose index)) (hr : (e.choose index).result = .error error)
    (hcode : (error.report wording).code = noOptionCode) (hs : (e.choose index).engine.Started)
    (ha : t.Arrives (e.choose index).engine) : GoesOn wording e line t := by
  have hplay : e.play (call? e line).toList = (e.choose index).engine := play_of_call? hc
  rw [← hplay] at hs ha
  refine ⟨hs, ha, fun last hrests hw => ?_⟩
  rw [hplay] at hw ⊢
  rw [accept_of_error hc hr]
  exact hrests.trans (rests_of_choose hr hcode hw)

theorem goesOn_of_none (hc : call? e line = none) (hs : e.Started) (ha : t.Arrives e) :
    GoesOn wording e line t := by
  have hplay : e.play (call? e line).toList = e := by
    rw [hc]
    rfl
  rw [← hplay] at hs ha
  refine ⟨hs, ha, fun last hrests _ => ?_⟩
  rw [accept_of_none hc, hplay]
  exact hrests

theorem answered_proceed (h : e.Started) (hc : call? e line = some c) (hne : c ≠ .restart) :
    Answered wording e line (proceed wording ⟨e, []⟩ (e.call c)) := by
  have hs := h.call (.inr hne)
  cases hr : (e.call c).result with
  | ok _ => exact .goesOn (goesOn_of_ok hc hr hs (arrives_proceed hs hr))
  | error error =>
    refine .closes (.failed hc hr ?_ ?_)
    · rw [proceed, hr]
    · rw [proceed, hr]
      rfl

theorem answered_restartTurn (h : e.Started) (hc : call? e line = some .restart) :
    Answered wording e line (restartTurn wording ⟨e, []⟩) := by
  cases hr : e.restart.result with
  | ok _ =>
    have hs := h.call (c := .restart) (.inl hr)
    refine .goesOn (goesOn_of_ok hc hr hs ?_)
    rw [restartTurn]
    dsimp only
    rw [hr]
    exact (arrives_settle hs _).after rfl _
  | error error =>
    refine .closes (.failed hc hr ?_ ?_)
    · rw [restartTurn]
      dsimp only
      rw [hr]
    · rw [restartTurn]
      dsimp only
      rw [hr]
      rfl

theorem answered_choiceTurn (h : e.Started) {text : String}
    (hc : call? e line = (optionNumber? text).map .choose) :
    Answered wording e line (choiceTurn wording ⟨e, []⟩ text) := by
  rw [choiceTurn]
  cases hn : optionNumber? text with
  | none =>
    rw [hn] at hc
    exact .goesOn (goesOn_of_none hc h ((arrives_settle h []).after rfl []))
  | some index =>
    rw [hn] at hc
    dsimp only
    have hs := h.call (c := .choose index) (.inr (by simp))
    cases hr : (e.choose index).result with
    | ok _ => exact answered_proceed h hc (by simp)
    | error error =>
      dsimp only
      split
      · next hcode =>
        refine .goesOn (goesOn_of_turnedDown hc hr hcode hs ?_)
        exact (arrives_settle hs _).after rfl _
      · exact answered_proceed h hc (by simp)

theorem answered_respond (wording : Wording) (h : e.Started) (line : InputLine) :
    Answered wording e line (respond wording ⟨e, []⟩ line) := by
  cases line with
  | error error => exact .closes (.unreadable rfl rfl rfl)
  | ok text =>
    rw [respond, answer]
    cases hentry : Entry.ofLine text with
    | help =>
      have hc : call? e (.ok text) = none := by rw [call?, hentry]
      exact .goesOn (goesOn_of_none hc h ((arrives_settle h []).after rfl []))
    | restart => exact answered_restartTurn h (by rw [call?, hentry])
    | quit => exact .closes (.quit rfl hentry rfl rfl)
    | signal text =>
      dsimp only
      split
      · next hs => exact answered_choiceTurn h (by rw [call?, hentry]; exact if_pos hs)
      · next hs =>
        exact answered_proceed (c := .advance) h (by rw [call?, hentry]; exact if_neg hs) (by simp)

/-! ## Sessions -/

/-- The engine after the last call of a session that did not fail, or the last one before. -/
def lastAccepted (wording : Wording) : List InputLine → Turn → Engine → Engine
  | [], _, last => last
  | line :: rest, t, last =>
    match t.next with
    | .prompt p => lastAccepted wording rest (respond wording p line) (accept p.engine last line)
    | _ => last

/-- How a session that was not given up has ended, when so many lines of its input were read. -/
inductive Concluded (input : List InputLine) (read : Nat) (final : Engine) : Prop
  /-- The story has stopped. -/
  | stopped (hf : final.status.isFinished = true)
  /-- The last line that was read ends the session. -/
  | quit {before after : List InputLine} {text : String} (hi : input = before ++ .ok text :: after)
    (hq : Entry.ofLine text = .quit) (hread : read = before.length + 1)
  /-- All lines were read, and the engine still waits. -/
  | exhausted (hread : read = input.length) (hw : final.Waits)

theorem Concluded.cons {read : Nat} {final : Engine} (h : Concluded input read final)
    (line : InputLine) : Concluded (line :: input) (read + 1) final := by
  cases h with
  | stopped hf => exact .stopped hf
  | @quit before after text hi hq hread =>
    have hmore : line :: input = (line :: before) ++ .ok text :: after := congrArg _ hi
    exact .quit hmore hq (by rw [hread, List.length_cons])
  | exhausted hread hw => exact .exhausted (congrArg (· + 1) hread) hw

/-- How a session goes that begins with an engine, if it reads so many lines of its input, makes
some calls, and the last of them that did not fail leaves an engine resting. -/
structure Plays (wording : Wording) (input : List InputLine) (e : Engine) (r : SessionResult)
    (read : Nat) (calls : List Call) (resting : Engine) : Prop where
  /-- It reads no more than its input. -/
  read_le : read ≤ input.length
  /-- It asks once for each line that it reads, and at most once more. -/
  prompts_le : r.output.count .prompt ≤ read + 1
  /-- Each line that it reads is at most one call. -/
  calls_le : calls.length ≤ read
  /-- None of the calls starts the story, but for those that start it again. -/
  no_start : .start ∉ calls
  /-- It never finds the engine anywhere but waiting or stopped. -/
  boundary : ∀ status, r.result ≠ .error (.status status)
  /-- If it is given up because of the engine, then its last call has failed. -/
  failed : ∀ error, r.result = .error (.engine error) →
    ∃ before c, calls = before ++ [c] ∧ ((e.play before).call c).result = .error error
  /-- If it is not given up, then it leaves the engine as its calls do. -/
  engine_eq : ∀ final, r.result = .ok final → final.engine = e.play calls
  /-- It ends in one of three ways. -/
  concluded : ∀ final, r.result = .ok final → Concluded input read final.engine
  /-- If the engine waits at the end, then it waits where it was left resting. -/
  rests : ∀ final, r.result = .ok final → final.engine.Waits →
    Rests wording resting final.engine

variable {r : SessionResult} {read : Nat} {calls : List Call} {resting last : Engine}

theorem plays_of_ok (hr : r.result = .ok ⟨e.play calls, []⟩)
    (hprompts : r.output.count .prompt ≤ read + 1) (hread : read ≤ input.length)
    (hcalls : calls.length ≤ read) (hstart : .start ∉ calls)
    (hconcluded : Concluded input read (e.play calls))
    (hrests : (e.play calls).Waits → Rests wording resting (e.play calls)) :
    Plays wording input e r read calls resting := by
  have heq : ∀ final, r.result = .ok final → final.engine = e.play calls := fun final hfinal =>
    congrArg Player.engine (Except.ok.inj (hfinal.symm.trans hr))
  exact ⟨hread, hprompts, hcalls, hstart, fun status h => absurd (hr.symm.trans h) (by simp),
    fun error h => absurd (hr.symm.trans h) (by simp), heq,
    fun final hfinal => heq final hfinal ▸ hconcluded,
    fun final hfinal => heq final hfinal ▸ hrests⟩

theorem plays_of_error {error : SessionError} (hr : r.result = .error error)
    (hprompts : r.output.count .prompt ≤ read + 1) (hread : read ≤ input.length)
    (hcalls : calls.length ≤ read) (hstart : .start ∉ calls)
    (hboundary : ∀ status, error ≠ .status status)
    (hfailed : ∀ error', error = .engine error' →
      ∃ before c, calls = before ++ [c] ∧ ((e.play before).call c).result = .error error') :
    Plays wording input e r read calls resting where
  read_le := hread
  prompts_le := hprompts
  calls_le := hcalls
  no_start := hstart
  boundary status h := hboundary status (Except.error.inj (hr.symm.trans h))
  failed error' h := hfailed error' (Except.error.inj (hr.symm.trans h))
  engine_eq final h := absurd (hr.symm.trans h) (by simp)
  concluded final h := absurd (hr.symm.trans h) (by simp)
  rests final h := absurd (hr.symm.trans h) (by simp)

/-- No line stands for the call that starts a story for the first time. -/
theorem start_ne_of_call? (hc : call? e line = some c) : .start ≠ c := by
  rintro rfl
  unfold call? at hc
  split at hc
  · exact absurd hc (by simp)
  · split at hc
    · exact absurd hc (by simp)
    · split at hc
      · obtain ⟨_, _, heq⟩ := Option.map_eq_some_iff.1 hc
        exact absurd heq (by simp)
      · exact absurd hc (by simp)
    · exact absurd hc (by simp)

/-- A turn that asks for a line comes before a session with the engine that the line leaves. -/
theorem Plays.cons
    (h : Plays wording input (e.play (call? e line).toList) r read calls resting)
    (hc : t.output.count .prompt = 1) :
    Plays wording (line :: input) e (r.after t) (read + 1) ((call? e line).toList ++ calls)
      resting where
  read_le := Nat.succ_le_succ h.read_le
  prompts_le := by
    have hprompts := h.prompts_le
    rw [SessionResult.after, List.count_append, hc]
    omega
  calls_le := by
    have hcalls := h.calls_le
    have hcall : (call? e line).toList.length ≤ 1 := Option.length_toList_le
    rw [List.length_append]
    omega
  no_start hmem := by
    refine (List.mem_append.1 hmem).elim (fun hcall => ?_) h.no_start
    exact start_ne_of_call? (Option.mem_toList.1 hcall) rfl
  boundary := h.boundary
  failed error hr := by
    obtain ⟨before, c, rfl, hcall⟩ := h.failed error hr
    rw [← play_append] at hcall
    exact ⟨_ ++ before, c, (List.append_assoc _ before [c]).symm, hcall⟩
  engine_eq final hr := by
    rw [play_append]
    exact h.engine_eq final hr
  concluded final hr := (h.concluded final hr).cons line
  rests := h.rests

/-- What comes of a session after a turn that does not ask for a line. -/
theorem closed (h : ∀ p, t.next ≠ .prompt p) (wording : Wording) (input : List InputLine)
    (last : Engine) :
    continueSession wording input t = t.close ∧ linesRead wording input t = 0 ∧
      callsMade wording input t = [] ∧ lastAccepted wording input t last = last := by
  cases input with
  | nil => exact ⟨rfl, rfl, rfl, rfl⟩
  | cons line rest =>
    rw [continueSession, linesRead, callsMade, lastAccepted]
    cases hn : t.next with
    | prompt p => exact absurd hn (h p)
    | finished p | failed error => exact ⟨rfl, rfl, rfl, rfl⟩

/-- A session after a turn with an engine that has stopped. -/
theorem plays_of_finished (hn : t.next = .finished ⟨e, []⟩) (hf : e.status.isFinished = true)
    (hc : t.output.count .prompt = 0) (wording : Wording) (input : List InputLine) (last : Engine) :
    Plays wording input e (continueSession wording input t) (linesRead wording input t)
      (callsMade wording input t) (lastAccepted wording input t last) := by
  obtain ⟨hsession, hread, hcalls, -⟩ := closed (t := t) (by simp [hn]) wording input last
  rw [hsession, hread, hcalls]
  refine plays_of_ok (by rw [Turn.close, hn]; rfl) ?_ (Nat.zero_le _) (Nat.zero_le _)
    List.not_mem_nil (.stopped hf) fun hw => absurd (hw.not_finished.symm.trans hf) Bool.noConfusion
  exact hc.trans_le (Nat.zero_le _)

/-- A session whose input is used up while its engine waits. -/
theorem plays_of_exhausted (hn : t.next = .prompt ⟨e, []⟩) (hw : e.Waits)
    (hc : t.output.count .prompt = 1) (hrests : Rests wording last e) :
    Plays wording [] e t.close 0 [] last := by
  refine plays_of_ok ?_ (Nat.le_of_eq hc) (Nat.le_refl 0) (Nat.le_refl 0) List.not_mem_nil
    (.exhausted rfl hw) fun _ => hrests
  rw [Turn.close, hn]
  rfl

theorem Closes.not_prompt (h : Closes e line t) (p : Player) : t.next ≠ .prompt p := by
  cases h with
  | quit _ _ hn _ | failed _ _ hn _ | unreadable _ hn _ => simp [hn]

/-- The session ends with the answer to a line. -/
theorem Closes.count_close_after {answer : Turn} (h : Closes e line answer)
    (hc : t.output.count .prompt = 1) :
    (answer.close.after t).output.count .prompt ≤ 0 + 1 + 1 := by
  have hout : answer.output.count .prompt = 0 := by
    cases h with
    | quit _ _ _ hout | failed _ _ _ hout | unreadable _ _ hout => exact hout
  rw [SessionResult.after, Turn.close, List.count_append, hc, hout]
  omega

/-- A session that ends with a line, after a turn that asked for it. -/
theorem Closes.plays {answer : Turn} (h : Closes e line answer) (hrests : Rests wording last e)
    (hc : t.output.count .prompt = 1) (rest : List InputLine) :
    Plays wording (line :: rest) e ((continueSession wording rest answer).after t)
      (linesRead wording rest answer + 1) ((call? e line).toList ++ callsMade wording rest answer)
      (lastAccepted wording rest answer (accept e last line)) := by
  obtain ⟨hsession, hread, hcalls, hresting⟩ :=
    closed h.not_prompt wording rest (accept e last line)
  have hprompts := h.count_close_after hc
  rw [hsession, hread, hcalls, hresting, List.append_nil]
  cases h with
  | @quit text hl hq hn _ =>
    subst hl
    have hcall : call? e (.ok text) = none := by rw [call?, hq]
    have hresult : (answer.close.after t).result = .ok ⟨e, []⟩ := by
      rw [SessionResult.after, Turn.close, hn]
    have hfirst : (.ok text :: rest : List InputLine) = [] ++ .ok text :: rest := rfl
    have hconcluded : Concluded (.ok text :: rest) (0 + 1) e := .quit hfirst hq rfl
    rw [accept_of_none hcall, hcall]
    exact plays_of_ok hresult hprompts (by simp) (Nat.zero_le _) List.not_mem_nil hconcluded
      fun _ => hrests
  | @failed c error hcall hr hn _ =>
    have hresult : (answer.close.after t).result = .error (.engine error) := by
      rw [SessionResult.after, Turn.close, hn]
    have hstart : Call.start ∉ [c] := List.mem_singleton.not.2 (start_ne_of_call? hcall)
    rw [hcall]
    refine plays_of_error hresult hprompts (by simp) (Nat.le_refl 1) hstart (by simp) ?_
    intro error' heq
    obtain rfl := SessionError.engine.inj heq
    exact ⟨[], c, rfl, hr⟩
  | @unreadable error hl hn _ =>
    subst hl
    have hresult : (answer.close.after t).result = .error (.input error) := by
      rw [SessionResult.after, Turn.close, hn]
    exact plays_of_error hresult hprompts (by simp) (Nat.zero_le _) List.not_mem_nil (by simp)
      (by simp)

/-- A session after a turn with an engine that has been started. -/
theorem plays_continueSession (h : e.Started) (ha : t.Arrives e)
    (hrests : e.Waits → Rests wording last e) (input : List InputLine) :
    Plays wording input e (continueSession wording input t) (linesRead wording input t)
      (callsMade wording input t) (lastAccepted wording input t last) := by
  -- Each line is one step of the induction; the answer to it begins the rest, or ends the session.
  induction input generalizing t e last with
  | nil =>
    cases ha with
    | finished hn hf hc => exact plays_of_finished hn hf hc wording [] last
    | prompt hn hw hc => exact plays_of_exhausted hn hw hc (hrests hw)
  | cons line rest ih =>
    cases ha with
    | finished hn hf hc => exact plays_of_finished hn hf hc wording (line :: rest) last
    | prompt hn hw hc =>
      rw [continueSession, linesRead, callsMade, lastAccepted, hn]
      cases answered_respond wording h line with
      | goesOn hon => exact (ih hon.started hon.arrives (hon.rests last (hrests hw))).cons hc
      | closes hcloses => exact hcloses.plays (hrests hw) hc rest

/-! ## Lines that change nothing -/

/-- A line that asks for help, or is no number of an option where options are offered. -/
inductive Harmless (e : Engine) : InputLine → Prop
  | help {text : String} (hw : e.Waits) (h : Entry.ofLine text = .help) : Harmless e (.ok text)
  | noNumber {place : Cursor} {options : List ChoiceOption} {text entry : String}
      (ho : e.Offers place options) (h : Entry.ofLine text = .signal entry)
      (hn : optionNumber? entry = none) : Harmless e (.ok text)
  | noOption {place : Cursor} {options : List ChoiceOption} {text entry : String} {index : Nat}
      (ho : e.Offers place options) (h : Entry.ofLine text = .signal entry)
      (hn : optionNumber? entry = some index) (hi : options.length ≤ index) : Harmless e (.ok text)

theorem next_settle {p : Player} (hw : p.engine.Waits) : (settle p).next = .prompt p.drained := by
  rw [settle, Turn.after, await]
  have hengine : p.drained.engine = p.engine := rfl
  rw [hengine]
  rcases hw with hs | hs <;> rw [hs]

/-- After a line that changes nothing the session asks again, with the same engine. -/
theorem next_respond_of_harmless (wording : Wording) {p : Player} (h : Harmless p.engine line) :
    (respond wording p line).next = .prompt p.drained := by
  cases h with
  | help hw hentry =>
    rw [respond, answer, hentry]
    exact next_settle hw
  | noNumber ho hentry hn =>
    rw [respond, answer, hentry]
    dsimp only
    rw [if_pos ho.status, choiceTurn, hn]
    exact next_settle (.inr ho.status)
  | noOption ho hentry hn hi =>
    rw [respond, answer, hentry]
    dsimp only
    rw [if_pos ho.status, choiceTurn, hn]
    dsimp only
    rw [choose_of_length_le ho hi]
    exact next_settle (.inr ho.status)

/-- A session with an engine that has been started comes to an end with its input, whatever is
entered and whatever is pending: it asks for at most one line more than there are, and each line is
at most one call. It asks again after a line that changes nothing. If it is not given up, then the
story has stopped, the player has quit, or the input is used up and the engine waits where the last
call that did not fail has led it; and then the exit code is zero. -/
theorem plays_session (wording : Wording) (story : Story) (limit : Nat) (before : List Call)
    {p : Player} (hp : p.engine = (idle story limit).play before) (hs : p.engine.status ≠ .idle)
    (input : List InputLine) :
    Plays wording input p.engine (session wording p input) (linesRead wording input (firstTurn p))
        (sessionCalls wording p input) (lastAccepted wording input (firstTurn p) p.engine) ∧
      (∀ line, Harmless p.engine line → (respond wording p line).next = .prompt p.drained) ∧
      ∀ language path gate found told final,
        openPlay language wording path gate found = (told, .ok (firstTurn p)) →
          (session wording p input).result = .ok final →
            (play language wording path gate found input).exit = 0 := by
  have hstarted : p.engine.Started := ⟨hp ▸ (reached_play story limit before).settled, hs⟩
  have hfirst : (firstTurn p).Arrives p.engine := (arrives_settle hstarted p.pending).after rfl []
  refine ⟨plays_continueSession hstarted hfirst (fun _ => .refl wording _) input,
    fun line => next_respond_of_harmless wording, ?_⟩
  intro language path gate found told final hopen hfinal
  have hsession : (continueSession wording input (firstTurn p)).result = .ok final := hfinal
  rw [play, hopen]
  dsimp only
  rw [hsession]

/-- What somebody enters who comes to the fork and then gives up. -/
def doubt : List InputLine :=
  ["\n", "left\n", "7\n", ":help\n"].map Except.ok

/-- Of the four lines two are calls, and the second of these is refused. The session asks five times
and ends at the fork. -/
theorem plays_session_of_fork :
    (undrained fork 5 [.start]).engine.status ≠ .idle ∧
      linesRead .own doubt (firstTurn (undrained fork 5 [.start])) = 4 ∧
      (session .own (undrained fork 5 [.start]) doubt).output.count .prompt = 5 ∧
      Plays .own doubt ((idle fork 5).play [.start])
        (session .own (undrained fork 5 [.start]) doubt) 4 [.advance, .choose 7]
        ((idle fork 5).play [.start, .advance]) := by
  have hs : (undrained fork 5 [.start]).engine.status ≠ .idle := by decide
  have hread : linesRead .own doubt (firstTurn (undrained fork 5 [.start])) = 4 := by cbv
  have hcalls : sessionCalls .own (undrained fork 5 [.start]) doubt =
      [.advance, .choose 7] := by
    cbv
  have hresting : lastAccepted .own doubt (firstTurn (undrained fork 5 [.start]))
      (undrained fork 5 [.start]).engine = (idle fork 5).play [.start, .advance] := by cbv
  have hengine : (undrained fork 5 [.start]).engine = (idle fork 5).play [.start] := rfl
  have hplays := (plays_session .own fork 5 [.start] hengine hs doubt).1
  rw [hread, hcalls, hresting] at hplays
  exact ⟨hs, hread, by cbv, hplays⟩

end Console

end BranchingStory
