import BranchingStory.Script.Function

/-!
# Paths into data

A path leads from data to a part of them: through properties, to elements, and through calls. `walk`
follows a path and gives what is reached, together with the data from which it started as the calls
on the way have left them. `store` changes what a path leads to.

What a call gives is not a part of the data it was called on: changes to it are lost.
-/

namespace BranchingStory.Script

/-- A link of a path. A soft link ends the path if it starts at no value. -/
inductive Hop
  /-- To a property. -/
  | property (soft : Bool) (name : String)
  /-- To the element under an index. -/
  | element (soft : Bool) (index : Datum)
  /-- Through a call. -/
  | method (soft : Bool) (name : String) (arguments : List Datum)

/-- Whether a link is soft. -/
def Hop.isSoft : Hop → Bool
  | property soft _ => soft
  | element soft _ => soft
  | method soft _ _ => soft

/-- What a path leads to. -/
structure Reached where
  /-- What is reached. -/
  result : Datum
  /-- The data from which the path started, afterwards. -/
  source : Datum
  /-- Whether there was a call of a function that changes its first argument. -/
  changing : Bool := false

namespace Datum

/-- Whether data are no value. -/
def isUnit : Datum → Bool
  | unit => true
  | _ => false

/-- Follows a path. -/
def walk : List Hop → Datum → Except Problem Reached
  | [], d => .ok ⟨d, d, false⟩
  | hop :: rest, d =>
    if hop.isSoft && d.isUnit then .ok ⟨unit, d, false⟩
    else match hop with
      | .property _ name => do
        let reached ← walk rest (← d.property name)
        return { reached with source := d.withProperty name reached.source }
      | .element _ index => do
        let reached ← walk rest (← d.element index)
        let source ←
          if reached.changing && d.hasElement index then d.withElement index reached.source
          else pure d
        return { reached with source }
      | .method _ name arguments => do
        let called ← call name (d :: arguments)
        let reached ← walk rest called.result
        return ⟨reached.result, called.changed.getD d, reached.changing || called.changed.isSome⟩

/-- Changes what a path leads to. A property or a name of a map that is not there is added at the
end of a path. -/
def store (update : Datum → Except Problem Datum) : List Hop → Datum → Except Problem Datum
  | [], d => update d
  | hop :: rest, d =>
    if hop.isSoft && d.isUnit then .ok d
    else match hop with
      | .property _ name => do
        let content ← store update rest (← d.property name)
        match d with
        | map entries => return map (Dict.insert entries name content)
        | _ => throw (.noProperty name)
      | .element _ index => do
        d.withElement index (← store update rest (← d.element index))
      | .method _ name _ => .error (.unknownFunction name)

end Datum

end BranchingStory.Script
