import BranchingStory.Playback.Engine

/-!
# Runs

A run is a list of calls that are made one after the other; `Engine.play` is the engine after it,
and `Engine.outcomes` is what each of the calls leads to. A playthrough is what an engine has been
through since it was made or last restarted, so a restart starts the journal of the playthrough
anew.
-/

namespace BranchingStory

open Playback

/-- The step at a place. -/
def Story.stepAt? (story : Story) (place : Cursor) : Option Step :=
  match story.nodes.resolve place.node with
  | .ok steps => steps[place.index]?
  | .error _ => none

namespace Playback

namespace Engine

/-- The address of the node that an engine is at. -/
def node? (e : Engine) : Option String :=
  e.cursor.map Cursor.node

/-- The number of the step that an engine is at. -/
def index (e : Engine) : Nat :=
  (e.cursor.map Cursor.index).getD 0

/-- The step that an engine is at. -/
def step? (e : Engine) : Option Step :=
  e.cursor.bind e.story.stepAt?

/-- The engine after a run. -/
def play (e : Engine) (calls : List Call) : Engine :=
  calls.foldl (fun e c => (e.call c).engine) e

@[simp] theorem play_nil (e : Engine) : e.play [] = e := rfl

theorem play_append (e : Engine) (first second : List Call) :
    e.play (first ++ second) = (e.play first).play second :=
  List.foldl_append

theorem play_concat (e : Engine) (calls : List Call) (c : Call) :
    e.play (calls ++ [c]) = ((e.play calls).call c).engine := by
  simp [play]

/-- What the calls of a run lead to, one after the other. -/
def outcomes (e : Engine) : List Call → List Outcome
  | [] => []
  | c :: rest => e.call c :: (e.call c).engine.outcomes rest

theorem outcomes_concat (e : Engine) (calls : List Call) (c : Call) :
    e.outcomes (calls ++ [c]) = e.outcomes calls ++ [(e.play calls).call c] := by
  induction calls generalizing e with
  | nil => rfl
  | cons first rest ih => exact congrArg (e.call first :: ·) (ih (e.call first).engine)

/-- What every call hands on is handed on by a run. -/
theorem play_induction {I : Engine → Prop} (hcall : ∀ e c, I e → I (e.call c).engine) {e : Engine}
    (h : I e) (calls : List Call) : I (e.play calls) := by
  induction calls generalizing e with
  | nil => exact h
  | cons c rest ih => exact ih (hcall e c h)

end Engine

/-- An engine, and what has happened since it was made or last restarted. -/
@[ext] structure Playthrough where
  /-- The engine. -/
  engine : Engine
  /-- The journal. -/
  events : List Event

namespace Playthrough

/-- Nothing has happened to an engine for a story that has not been started. -/
def opened (story : Story) (limit : Nat) : Playthrough where
  engine := .idle story limit
  events := []

/-- The playthrough after a call. -/
def call (p : Playthrough) (c : Engine.Call) : Playthrough where
  engine := (p.engine.call c).engine
  events := match c with
    | .restart => (p.engine.call c).events
    | _ => p.events ++ (p.engine.call c).events

theorem events_call (p : Playthrough) {c : Engine.Call} (hc : c ≠ .restart) :
    (p.call c).events = p.events ++ (p.engine.call c).events := by
  cases c <;> first | rfl | exact absurd rfl hc

/-- The playthrough that is under way after a run. -/
def play (p : Playthrough) (calls : List Engine.Call) : Playthrough :=
  calls.foldl call p

/-- A playthrough is that of the engine after the run. -/
theorem engine_play (p : Playthrough) (calls : List Engine.Call) :
    (p.play calls).engine = p.engine.play calls := by
  induction calls generalizing p with
  | nil => rfl
  | cons c rest ih => exact ih (p.call c)

/-- What every call hands on is handed on by a run. -/
theorem play_induction {I : Playthrough → Prop} (hcall : ∀ p c, I p → I (p.call c))
    {p : Playthrough} (h : I p) (calls : List Engine.Call) : I (p.play calls) := by
  induction calls generalizing p with
  | nil => exact h
  | cons c rest ih => exact ih (hcall p c h)

end Playthrough

end Playback

end BranchingStory
