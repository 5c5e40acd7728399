import BranchingStory.Playback.Engine
import BranchingStory.Proofs.Success
import BranchingStory.Script.Basic
import Mathlib

/-!
# Values in scripts

After an effect all variables are what the script left behind in its map, the ones that it never
mentions among them. This does them no harm, since values come back from data unchanged
(`toValue_ofValue`, `toEntries_ofEntries`): an effect that leaves its map as it received it leaves
the variables as they were, and every entry that it leaves alone stands for the value that the
variable had (`get?_effect_of_untouched`).

Values contain lists of values and of named values, so the three conversions are inverted by one
mutual recursion, like the one that defines them.
-/

namespace BranchingStory

open Playback

namespace Script

/-! ## There and back -/

namespace Datum

mutual

/-- A value comes back from data unchanged. -/
theorem toValue_ofValue : ∀ value : Value, toValue (ofValue value) = .ok value
  | .bool b => rfl
  | .number x => rfl
  | .string s => rfl
  | .array items => by
    rw [ofValue, toValue, toValues_ofValues items]
    rfl
  | .map entries => by
    rw [ofValue, toValue, toEntries_ofEntries entries]
    rfl

theorem toValues_ofValues : ∀ items : List Value, toValues (ofValues items) = .ok items
  | [] => rfl
  | item :: rest => by
    rw [ofValues, toValues, toValue_ofValue item, toValues_ofValues rest]
    rfl

/-- Variables come back from the map of a script unchanged. -/
theorem toEntries_ofEntries :
    ∀ entries : List (String × Value), toEntries (ofEntries entries) = .ok entries
  | [] => rfl
  | (name, value) :: rest => by
    rw [ofEntries, toEntries, toValue_ofValue value, toEntries_ofEntries rest]
    rfl

end

/-- The variables that come back from a map are those that it names, with the values that come back
from its entries. -/
theorem map_toValue_get? {entries : List (String × Datum)} {vars : Variables}
    (h : toEntries entries = .ok vars) (key : String) :
    (Dict.get? entries key).map toValue = (vars.get? key).map .ok := by
  induction entries generalizing vars with
  | nil =>
    obtain rfl := Except.ok.inj h
    rfl
  | cons entry rest ih =>
    obtain ⟨name, item⟩ := entry
    rw [toEntries] at h
    simp only [bind_eq_ok, pure_eq_ok] at h
    obtain ⟨value, hvalue, others, hothers, rfl⟩ := h
    rw [Dict.get?_cons, Dict.get?_cons]
    split
    · exact congrArg some hvalue
    · exact ih hothers

/-- An entry that is the datum of a value comes back as that value. -/
theorem get?_of_toEntries {entries : List (String × Datum)} {before after : Variables}
    (h : toEntries entries = .ok after) {key : String}
    (hkey : Dict.get? entries key = (before.get? key).map ofValue) :
    after.get? key = before.get? key := by
  have hback := map_toValue_get? h key
  rw [hkey, Option.map_map] at hback
  have hround : toValue ∘ ofValue = Except.ok := funext toValue_ofValue
  rw [hround] at hback
  exact (Option.map_injective (fun _ _ => Except.ok.inj) hback).symm

end Datum

/-! ## Effects -/

namespace Language

variable (language : Language) {program : language.Program} {vars : Variables}
  {entries : List (String × Datum)}

/-- A program that is run on variables leaves a map behind. -/
def LeavesMap (program : language.Program) (vars : Variables)
    (entries : List (String × Datum)) : Prop :=
  ∃ scope, language.scopeAfter program (openingScope vars) = .ok scope ∧
    (scope.find? variablesName).map Binding.content = some (.map entries)

variable {language}

theorem variablesAfter_of_leavesMap (location : Location)
    (h : language.LeavesMap program vars entries) :
    language.variablesAfter program location vars =
      (Datum.toEntries entries).mapError .valueUnsupported := by
  obtain ⟨scope, hrun, hmap⟩ := h
  have hscope : (language.scopeAfter program (openingScope vars)).mapError
      (fun problem => AuthorError.runtime problem location) = .ok scope := by
    rw [hrun]
    rfl
  rw [variablesAfter, hscope]
  simp only [bind, Except.bind, hmap]

/-- An effect that leaves its map as it received it leaves the variables as they were. -/
theorem effect_of_leavesMap_ofEntries (location : Location)
    (h : language.LeavesMap program vars (Datum.ofEntries vars)) :
    language.effect program location vars = (vars, .ok ()) := by
  rw [effect, variablesAfter_of_leavesMap location h, Datum.toEntries_ofEntries]
  rfl

/-- A variable whose entry an effect leaves alone keeps its value, also if the effect fails. -/
theorem get?_effect_of_untouched (location : Location)
    (h : language.LeavesMap program vars entries) {key : String}
    (hkey : Dict.get? entries key = (vars.get? key).map Datum.ofValue) :
    (language.effect program location vars).1.get? key = vars.get? key := by
  rw [effect, variablesAfter_of_leavesMap location h]
  cases hback : Datum.toEntries entries with
  | error kind => rfl
  | ok after => exact Datum.get?_of_toEntries hback hkey

/-- Taking an option goes on from the variables as they were if its effect leaves its map as it
received it. -/
theorem take_of_leavesMap_ofEntries {e : Engine} (place : Cursor) (index : Nat) {o : ChoiceOption}
    {location : Location} (ho : o.effect = some (language.effect program location))
    (h : language.LeavesMap program e.scene.vars (Datum.ofEntries e.scene.vars)) :
    e.take place index o = (e.leaveChoice place o.target).after [.taken place index o] := by
  rw [Engine.take, ho]
  dsimp only
  rw [effect_of_leavesMap_ofEntries location h]

/-- What it means that values survive the way into scripts and back. -/
structure Lossless (language : Language) : Prop where
  /-- Every value comes back. -/
  value (v : Value) : Datum.toValue (Datum.ofValue v) = .ok v
  /-- All variables come back. -/
  vars (all : Variables) : Datum.toEntries (Datum.ofEntries all) = .ok all
  /-- An effect that leaves its map alone changes no variable. -/
  effect {program : language.Program} {vars : Variables} (location : Location)
    (h : language.LeavesMap program vars (Datum.ofEntries vars)) :
    language.effect program location vars = (vars, .ok ())
  /-- Nor does such an effect change a variable when its option is taken. -/
  taken {program : language.Program} {e : Engine} (place : Cursor) (index : Nat) {o : ChoiceOption}
    {location : Location} (ho : o.effect = some (language.effect program location))
    (h : language.LeavesMap program e.scene.vars (Datum.ofEntries e.scene.vars)) :
    e.take place index o = (e.leaveChoice place o.target).after [.taken place index o]
  /-- A variable whose entry an effect leaves alone keeps its value. -/
  entry {program : language.Program} {vars : Variables} {entries : List (String × Datum)}
    (location : Location) (h : language.LeavesMap program vars entries) {key : String}
    (hkey : Dict.get? entries key = (vars.get? key).map Datum.ofValue) :
    (language.effect program location vars).1.get? key = vars.get? key

/-- Values survive the way into scripts and back, whatever the language of the scripts is. -/
theorem lossless (language : Language) : language.Lossless where
  value := Datum.toValue_ofValue
  vars := Datum.toEntries_ofEntries
  effect := effect_of_leavesMap_ofEntries
  taken := take_of_leavesMap_ofEntries
  entry := get?_effect_of_untouched

/-- What somebody carries around. -/
def belongings : Variables :=
  [("bag", .array [.string "rope", .map [("weight", .number (-0.0))]]), ("score", .number 1.5)]

/-- A program that only looks at its map. -/
def lookAround : own.Program :=
  ([.declare false "seen" (.chain (.variable "vars") [.property false "bag"])] : List Stmt)

/-- A program that adds an entry to its map. -/
def repaint : own.Program :=
  ([.assign "vars" [.property false "color"] none (.literal (.string "red"))] : List Stmt)

/-- Looking into the bag changes nothing, and a new color leaves the bag as it was. -/
theorem lossless_of_belongings :
    own.program? "let seen = vars.bag;" = .ok lookAround ∧
      own.LeavesMap lookAround belongings (Datum.ofEntries belongings) ∧
      own.effect lookAround (.option "A" 0 0) belongings = (belongings, .ok ()) ∧
      own.program? "vars.color = \"red\";" = .ok repaint ∧
      own.LeavesMap repaint belongings
        (Dict.insert (Datum.ofEntries belongings) "color" (.string "red")) ∧
      (own.effect repaint (.option "A" 0 1) belongings).1.get? "bag" = belongings.get? "bag" ∧
      (own.effect repaint (.option "A" 0 1) belongings).1.get? "color" = some (.string "red") := by
  have hlook : own.LeavesMap lookAround belongings (Datum.ofEntries belongings) := ⟨_, rfl, rfl⟩
  have hpaint : own.LeavesMap repaint belongings
      (Dict.insert (Datum.ofEntries belongings) "color" (.string "red")) := ⟨_, rfl, rfl⟩
  exact ⟨by cbv, hlook, (lossless own).effect _ hlook, by cbv, hpaint,
    (lossless own).entry _ hpaint rfl, rfl⟩

end Language

end Script

end BranchingStory
