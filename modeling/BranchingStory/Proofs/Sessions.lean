import BranchingStory.Console.Session
import BranchingStory.Playback.Run
import Mathlib

/-!
# What a session shows

The commands of the engine become lines at once, but a session writes them later, and it throws the
lines that are pending away when the story is started again. Still it shows every command once, in
the order in which they were sent (`shown_once`).

What was written and what is pending, one after the other, is always what was sent (`Tracks`). A
turn writes all that is pending before a line is due, so there is nothing to be thrown away.
-/

namespace BranchingStory.Console

open Playback Playback.Engine

/-- The lines that show what was sent in some calls. -/
def sentLines (outcomes : List Outcome) : List String :=
  outcomes.flatMap fun o => commandLines o.commands

/-- The call of the engine that a line of the input stands for, if it stands for one. -/
def call? (engine : Engine) : InputLine → Option Call
  | .error _ => none
  | .ok line =>
    match Entry.ofLine line with
    | .restart => some .restart
    | .signal text =>
      if engine.status = .awaitingChoice then (optionNumber? text).map .choose else some .advance
    | _ => none

/-- The calls of the engine that a session makes after a turn. -/
def callsMade (wording : Wording) : List InputLine → Turn → List Call
  | [], _ => []
  | line :: rest, t =>
    match t.next with
    | .prompt p => (call? p.engine line).toList ++ callsMade wording rest (respond wording p line)
    | _ => []

/-- The player at the end of a turn, unless the session is given up. -/
def TurnEnd.player? : TurnEnd → Option Player
  | prompt p => some p
  | finished p => some p
  | failed _ => none

/-- A player has an engine after a run. What was written before and what is pending are the lines
that were sent in the run. -/
structure Player.Tracks (story : Story) (limit : Nat) (calls : List Call) (written : List String)
    (p : Player) : Prop where
  engine_eq : p.engine = (idle story limit).play calls
  lines_eq : written ++ p.pending = sentLines ((idle story limit).outcomes calls)

/-- At the end of a turn everything that was sent is written. -/
structure Turn.Tracks (story : Story) (limit : Nat) (calls : List Call) (written : List String)
    (t : Turn) : Prop where
  player : ∀ p, t.next.player? = some p →
    p.Tracks story limit calls (written ++ storyLines t.output)
  pending : ∀ p, t.next.player? = some p → p.pending = []

variable {story : Story} {limit : Nat} {calls : List Call} {written : List String} {p : Player}
  {t : Turn} {wording : Wording}

/-! ## Lines -/

theorem storyLines_append (first second : List Written) :
    storyLines (first ++ second) = storyLines first ++ storyLines second :=
  List.filterMap_append

theorem storyLines_map_story (lines : List String) : storyLines (lines.map .story) = lines := by
  rw [storyLines, List.filterMap_map]
  exact List.filterMap_some

theorem sentLines_concat (outcomes : List Outcome) (o : Outcome) :
    sentLines (outcomes ++ [o]) = sentLines outcomes ++ commandLines o.commands := by
  simp [sentLines]

theorem storyLines_await (p : Player) : storyLines (await p).output = [] := by
  unfold await
  split <;> rfl

theorem storyLines_settle (p : Player) : storyLines (settle p).output = p.pending := by
  rw [settle, Turn.after, storyLines_append, storyLines_map_story, storyLines_await,
    List.append_nil]

theorem eq_of_await {q : Player} (h : (await p).next.player? = some q) : q = p := by
  unfold await at h
  split at h <;> simp_all [TurnEnd.player?]

/-! ## Turns -/

/-- What a call sends becomes pending. -/
theorem Player.Tracks.call (h : p.Tracks story limit calls written) (c : Call) :
    (p.after (p.engine.call c)).Tracks story limit (calls ++ [c]) written := by
  refine ⟨?_, ?_⟩
  · rw [play_concat, ← h.engine_eq]
    rfl
  · rw [outcomes_concat, sentLines_concat, ← h.engine_eq, ← h.lines_eq, List.append_assoc]
    rfl

theorem tracks_of_failed {error : SessionError} (h : t.next = .failed error) :
    t.Tracks story limit calls written := by
  refine ⟨fun p hp => ?_, fun p hp => ?_⟩
  · rw [h] at hp
    exact absurd hp (by simp [TurnEnd.player?])
  · rw [h] at hp
    exact absurd hp (by simp [TurnEnd.player?])

theorem Turn.Tracks.after (h : t.Tracks story limit calls written) {output : List Written}
    (hout : storyLines output = []) (lines : List LogLine) :
    (t.after output lines).Tracks story limit calls written := by
  refine ⟨fun p hp => ?_, h.pending⟩
  rw [Turn.after, storyLines_append, hout, List.nil_append]
  exact h.player p hp

/-- Settling writes what is pending. -/
theorem tracks_settle (h : p.Tracks story limit calls written) :
    (settle p).Tracks story limit calls written := by
  refine ⟨fun q hq => ?_, fun q hq => ?_⟩
  · obtain rfl : q = p.drained := eq_of_await hq
    rw [storyLines_settle, h.lines_eq]
    exact ⟨h.engine_eq, List.append_nil _⟩
  · obtain rfl : q = p.drained := eq_of_await hq
    rfl

theorem tracks_proceed (h : p.Tracks story limit calls written) (c : Call) :
    (proceed wording p (p.engine.call c)).Tracks story limit (calls ++ [c]) written := by
  unfold proceed
  dsimp only
  split
  · exact (tracks_settle (h.call c)).after rfl _
  · exact tracks_of_failed rfl

/-- Nothing is pending when the story is started again, so nothing is thrown away. -/
theorem tracks_restartTurn (h : p.Tracks story limit calls written) (hp : p.pending = []) :
    (restartTurn wording p).Tracks story limit (calls ++ [.restart]) written := by
  have hdrained : p.drained = p := by rw [Player.drained, ← hp]
  unfold restartTurn
  rw [hdrained]
  dsimp only
  split
  · exact (tracks_settle (h.call .restart)).after rfl _
  · exact tracks_of_failed rfl

theorem tracks_choiceTurn (h : p.Tracks story limit calls written) (entry : String) :
    (choiceTurn wording p entry).Tracks story limit
      (calls ++ ((optionNumber? entry).map Call.choose).toList) written := by
  unfold choiceTurn
  cases optionNumber? entry with
  | none =>
    rw [Option.map_none, Option.toList_none, List.append_nil]
    exact (tracks_settle h).after rfl _
  | some index =>
    rw [Option.map_some, Option.toList_some]
    dsimp only
    split
    · exact tracks_proceed h (.choose index)
    · split
      · exact (tracks_settle (h.call (.choose index))).after rfl _
      · exact tracks_proceed h (.choose index)

theorem tracks_quit (h : p.Tracks story limit calls written) (hp : p.pending = []) :
    Turn.Tracks story limit calls written ⟨[.bye], [], .finished p⟩ := by
  have hlines : storyLines [.bye] = [] := rfl
  refine ⟨fun q hq => ?_, fun q hq => ?_⟩
  · obtain rfl : p = q := Option.some.inj hq
    rw [hlines, List.append_nil]
    exact h
  · obtain rfl : p = q := Option.some.inj hq
    exact hp

theorem tracks_answer (h : p.Tracks story limit calls written) (hp : p.pending = [])
    (line : String) :
    (answer wording p line).Tracks story limit (calls ++ (call? p.engine (.ok line)).toList)
      written := by
  rw [answer, call?]
  cases Entry.ofLine line with
  | help =>
    dsimp only
    rw [Option.toList_none, List.append_nil]
    exact (tracks_settle h).after rfl _
  | restart => exact tracks_restartTurn h hp
  | quit =>
    dsimp only
    rw [Option.toList_none, List.append_nil]
    exact tracks_quit h hp
  | signal text =>
    dsimp only
    split
    · exact tracks_choiceTurn h text
    · exact tracks_proceed h .advance

theorem tracks_respond (h : p.Tracks story limit calls written) (hp : p.pending = [])
    (line : InputLine) :
    (respond wording p line).Tracks story limit (calls ++ (call? p.engine line).toList)
      written := by
  cases line with
  | ok line =>
    rw [respond]
    exact tracks_answer h hp line
  | error error =>
    rw [respond]
    exact tracks_of_failed rfl

theorem player?_of_close {final : Player} (h : t.close.result = .ok final) :
    t.next.player? = some final := by
  rw [Turn.close] at h
  cases hn : t.next with
  | prompt p | finished p =>
    rw [hn] at h
    exact congrArg some (Except.ok.inj h)
  | failed error =>
    rw [hn] at h
    exact absurd h (by simp)

theorem tracks_close (h : t.Tracks story limit calls written) {final : Player}
    (hfinal : t.close.result = .ok final) :
    final.Tracks story limit calls (written ++ storyLines t.output) ∧ final.pending = [] := by
  have hplayer := player?_of_close hfinal
  exact ⟨h.player final hplayer, h.pending final hplayer⟩

/-- A session that goes on after a turn keeps track of what is sent until it is over. -/
theorem tracks_continueSession {input : List InputLine} (h : t.Tracks story limit calls written)
    {final : Player} (hfinal : (continueSession wording input t).result = .ok final) :
    final.Tracks story limit (calls ++ callsMade wording input t)
        (written ++ storyLines (continueSession wording input t).output) ∧
      final.pending = [] := by
  -- Each turn moves the calls it made and the lines it wrote into what was before the rest.
  induction input generalizing t calls written with
  | nil =>
    rw [callsMade, List.append_nil]
    exact tracks_close h hfinal
  | cons line rest ih =>
    rw [continueSession] at hfinal ⊢
    rw [callsMade]
    cases hn : t.next with
    | prompt p =>
      rw [hn] at hfinal
      have hplayer : t.next.player? = some p := by rw [hn]; rfl
      have hturn : (respond wording p line).Tracks story limit
          (calls ++ (call? p.engine line).toList) (written ++ storyLines t.output) :=
        tracks_respond (h.player p hplayer) (h.pending p hplayer) line
      have hrest := ih hturn hfinal
      rw [List.append_assoc, List.append_assoc] at hrest
      dsimp only
      rw [SessionResult.after, storyLines_append]
      exact hrest
    | finished p | failed error =>
      rw [hn] at hfinal
      rw [List.append_nil]
      exact tracks_close h hfinal

/-! ## Sessions -/

/-- A player whose engine was called, and whose lines were never written. -/
def undrained (story : Story) (limit : Nat) (before : List Call) : Player where
  engine := (idle story limit).play before
  pending := sentLines ((idle story limit).outcomes before)

/-- A session from its first turn on. -/
def session (wording : Wording) (p : Player) (input : List InputLine) : SessionResult :=
  continueSession wording input (firstTurn p)

/-- The calls of the engine that a session makes. -/
def sessionCalls (wording : Wording) (p : Player) (input : List InputLine) : List Call :=
  callsMade wording input (firstTurn p)

/-- A session that is not given up shows every command once: the lines of the story in what it
writes are those of the commands that the engine has sent, in its calls before the session and then
in those that the session makes, one after the other. -/
theorem shown_once (wording : Wording) (story : Story) (limit : Nat) (before : List Call)
    (input : List InputLine) {final : Player}
    (hfinal : (session wording (undrained story limit before) input).result = .ok final) :
    final.engine = (idle story limit).play
        (before ++ sessionCalls wording (undrained story limit before) input) ∧
      final.pending = [] ∧
      storyLines (session wording (undrained story limit before) input).output =
        sentLines ((idle story limit).outcomes
          (before ++ sessionCalls wording (undrained story limit before) input)) := by
  have hopened : (undrained story limit before).Tracks story limit before [] := ⟨rfl, rfl⟩
  have hfirst : (firstTurn (undrained story limit before)).Tracks story limit before [] :=
    (tracks_settle hopened).after rfl []
  obtain ⟨⟨hengine, hlines⟩, hpending⟩ := tracks_continueSession hfirst hfinal
  rw [hpending, List.append_nil] at hlines
  exact ⟨hengine, hpending, hlines⟩

/-- A story with a choice. -/
def fork : Story where
  start := "A"
  vars := none
  nodes := .group [
    ("A", .leaf [.narration (some "A fork."),
      .choice none [⟨some "Left", some "B", none⟩, ⟨some "Right", some "A", none⟩]]),
    ("B", .leaf [.ending])]
  characters := []
  places := []

/-- What somebody enters who needs help, and starts again before choosing. -/
def hesitation : List InputLine :=
  ["\n", "left\n", "7\n", ":restart\n", ":help\n", "\n", " 0 \n"].map Except.ok

/-- The session ends with the story. What it shows was shown once for the start, and once more
after the restart. -/
theorem shown_once_of_fork :
    (session .own (undrained fork 5 [.start]) hesitation).result =
        .ok ⟨(idle fork 5).play [.start, .advance, .choose 7, .restart, .advance, .choose 0], []⟩ ∧
      sessionCalls .own (undrained fork 5 [.start]) hesitation =
        [.advance, .choose 7, .restart, .advance, .choose 0] ∧
      storyLines (session .own (undrained fork 5 [.start]) hesitation).output =
        sentLines ((idle fork 5).outcomes
          ([.start] ++ sessionCalls .own (undrained fork 5 [.start]) hesitation)) ∧
      storyLines (session .own (undrained fork 5 [.start]) hesitation).output =
        ["", "A fork.", "", "  [0] Left", "  [1] Right",
          "", "A fork.", "", "  [0] Left", "  [1] Right", "", "[END]"] := by
  have hfinal : (session .own (undrained fork 5 [.start]) hesitation).result =
      .ok ⟨(idle fork 5).play [.start, .advance, .choose 7, .restart, .advance, .choose 0], []⟩ := by
    cbv
  exact ⟨hfinal, by cbv, (shown_once .own fork 5 [.start] hesitation hfinal).2.2, by cbv⟩

end BranchingStory.Console
