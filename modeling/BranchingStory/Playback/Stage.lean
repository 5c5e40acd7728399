import BranchingStory.Playback.Command

/-!
# The stage

Which character stands where. Commands change the picture of the stage that a viewer sees;
`Stage.after` is that picture.
-/

namespace BranchingStory.Playback

/-- The names of the characters at the three positions. -/
structure Stage where
  /-- Who stands at the left. -/
  left : Option String := none
  /-- Who stands in the center. -/
  center : Option String := none
  /-- Who stands at the right. -/
  right : Option String := none
deriving Repr, DecidableEq, Inhabited

namespace Stage

/-- The stage with nobody on it. -/
def empty : Stage := {}

/-- Who stands at a position. -/
def get? (stage : Stage) : Position → Option String
  | .left => stage.left
  | .center => stage.center
  | .right => stage.right

/-- Puts somebody, or nobody, at a position. -/
def set (stage : Stage) (position : Position) (character : Option String) : Stage :=
  match position with
  | .left => { stage with left := character }
  | .center => { stage with center := character }
  | .right => { stage with right := character }

@[simp] theorem get?_set_self (stage : Stage) (p : Position) (c : Option String) :
    (stage.set p c).get? p = c := by
  cases p <;> rfl

theorem get?_set_of_ne (stage : Stage) {p q : Position} (c : Option String) (h : p ≠ q) :
    (stage.set p c).get? q = stage.get? q := by
  cases p <;> cases q <;> first | rfl | exact absurd rfl h

@[simp] theorem get?_empty (p : Position) : empty.get? p = none := by
  cases p <;> rfl

/-- Whoever stands at a position after somebody was put at one is the new one, or stood there
before. -/
theorem get?_of_set_some {stage : Stage} {p q : Position} {name character : String}
    (h : (stage.set p (some name)).get? q = some character) :
    p = q ∧ name = character ∨ p ≠ q ∧ stage.get? q = some character := by
  by_cases hpos : p = q
  · subst hpos
    rw [get?_set_self] at h
    exact .inl ⟨rfl, Option.some.inj h⟩
  · rw [get?_set_of_ne stage _ hpos] at h
    exact .inr ⟨hpos, h⟩

/-- Whoever stands at a position after one was cleared stood there before. -/
theorem get?_of_set_none {stage : Stage} {p q : Position} {character : String}
    (h : (stage.set p none).get? q = some character) : p ≠ q ∧ stage.get? q = some character := by
  have hne : p ≠ q := by
    rintro rfl
    rw [get?_set_self] at h
    exact absurd h (by simp)
  rw [get?_set_of_ne stage none hne] at h
  exact ⟨hne, h⟩

/-- Two stages with the same characters at all positions are the same. -/
theorem ext_get? {s t : Stage} (h : ∀ p, s.get? p = t.get? p) : s = t := by
  have hl := h .left
  have hc := h .center
  have hr := h .right
  cases s
  cases t
  simp_all [get?]

/-- Where a character stands, looked for from left to right. -/
def positionOf? (stage : Stage) (character : String) : Option Position :=
  Position.all.find? fun p => stage.get? p = some character

theorem get?_of_positionOf? {stage : Stage} {character : String} {p : Position}
    (h : stage.positionOf? character = some p) : stage.get? p = some character := by
  rw [positionOf?] at h
  simpa using List.find?_some h

theorem get?_ne_of_positionOf? {stage : Stage} {character : String}
    (h : stage.positionOf? character = none) (p : Position) :
    stage.get? p ≠ some character := by
  rw [positionOf?, List.find?_eq_none] at h
  simpa using h p p.mem_all

/-- Who stands where, from left to right. -/
def occupied (stage : Stage) : List (Position × String) :=
  Position.all.filterMap fun p => (stage.get? p).map fun character => (p, character)

/-- The stage that a viewer sees after a command. -/
def after (stage : Stage) : Command → Stage
  | .setSprite position character _ => stage.set position (some character)
  | .clearSprite position => stage.set position none
  | _ => stage

end Stage

end BranchingStory.Playback
