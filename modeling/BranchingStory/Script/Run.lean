import BranchingStory.Script.Path

/-!
# Running scripts

The meaning of an expression is a run: it starts with the bindings that are in scope and ends with a
datum and the bindings afterwards, or it is interrupted, by a problem or because a loop or the whole
script is left.

All of this recurses on the script itself. Only a loop with a test may go on for ever; it is given
up after `roundLimit` rounds.
-/

namespace BranchingStory.Script

/-- A variable with what it holds. -/
structure Binding where
  /-- The name. -/
  name : String
  /-- Whether it may not be changed. -/
  constant : Bool
  /-- What it holds. -/
  content : Datum

/-- The variables that can be seen, the innermost first. -/
abbrev Scope := List Binding

namespace Scope

/-- The innermost variable with a name. -/
def find? (scope : Scope) (name : String) : Option Binding :=
  List.find? (fun b => b.name = name) scope

/-- Changes what the innermost variable with a name holds. -/
def set : Scope → String → Datum → Scope
  | [], _, _ => []
  | b :: rest, name, content =>
    if b.name = name then { b with content } :: rest else b :: set rest name content

/-- The variables without those that were declared since there were `depth` of them. -/
def rewind (scope : Scope) (depth : Nat) : Scope :=
  List.drop (scope.length - depth) scope

end Scope

/-- What is left before its end. -/
inductive Exit
  /-- A loop. -/
  | loop
  /-- A round of a loop. -/
  | round
  /-- The script. -/
  | script

/-- Why a run does not come to its end. -/
inductive Interrupt
  /-- Something is wrong. -/
  | problem (p : Problem)
  /-- A loop or the script is left. -/
  | exit (e : Exit) (scope : Scope)

/-- A run with a result. -/
abbrev Run (α : Type) := StateT Scope (Except Interrupt) α

namespace Run

/-- A run that fails. -/
def fail {α : Type} (p : Problem) : Run α :=
  throw (.problem p)

/-- A run that fails if something is wrong. -/
def check {α : Type} (result : Except Problem α) : Run α :=
  match result with
  | .ok a => pure a
  | .error p => fail p

/-- A run that leaves a loop or the script. -/
def leave {α : Type} (e : Exit) : Run α := do
  throw (.exit e (← get))

/-- A run after which the variables declared in it are gone. -/
def inBlock {α : Type} (run : Run α) : Run α := fun scope =>
  match run scope with
  | .ok (a, after) => .ok (a, after.rewind scope.length)
  | .error (.exit e after) => .error (.exit e (after.rewind scope.length))
  | .error (.problem p) => .error (.problem p)

/-- The truth value that data are. -/
def truth (d : Datum) : Run Bool :=
  match d with
  | .bool b => pure b
  | other => fail (.booleanExpected other.kind)

/-- What a variable holds. -/
def look (name : String) : Run Datum := do
  match (← get).find? name with
  | some b => return b.content
  | none => fail (.unknownVariable name)

/-- Changes what a variable holds. -/
def put (name : String) (content : Datum) : Run Unit := do
  match (← get).find? name with
  | some b =>
    if b.constant then fail .constantChanged
    else modify fun scope => scope.set name content
  | none => fail (.unknownVariable name)

/-- Declares a variable. -/
def declare (name : String) (constant : Bool) (content : Datum) : Run Unit :=
  modify fun scope => ⟨name, constant, content⟩ :: scope

/-- How a round of a loop ends: whether the loop goes on. -/
def round (body : Run Datum) : Run Bool := fun scope =>
  match body scope with
  | .ok (_, after) => .ok (true, after)
  | .error (.exit .round after) => .ok (true, after)
  | .error (.exit .loop after) => .ok (false, after)
  | .error other => .error other

/-- Repeats a run while a test is true, at most `rounds` times. -/
def repeatWhile : Nat → Run Bool → Run Datum → Run Unit
  | 0, _, _, _ => .error (.problem .endless)
  | rounds + 1, test, body, scope =>
    match test scope with
    | .error i => .error i
    | .ok (false, after) => .ok ((), after)
    | .ok (true, after) =>
      match round body after with
      | .error i => .error i
      | .ok (false, after) => .ok ((), after)
      | .ok (true, after) => repeatWhile rounds test body after

/-- Repeats a run for every one of some elements. -/
def repeatFor (body : Datum → Run Datum) : List Datum → Run Unit
  | [], scope => .ok ((), scope)
  | item :: rest, scope =>
    match round (body item) scope with
    | .error i => .error i
    | .ok (false, after) => .ok ((), after)
    | .ok (true, after) => repeatFor body rest after

/-- Calls a function. If its first argument was a variable and the function changes it, the variable
is changed. -/
def callFunction (name : String) (first : Option String) (arguments : List Datum) : Run Datum := do
  let called ← check (Datum.call name arguments)
  match first, called.changed with
  | some name, some content => put name content
  | _, _ => pure ()
  return called.result

/-- Follows a path from a variable. -/
def walkVariable (name : String) (path : List Hop) : Run Datum := do
  let reached ← check (Datum.walk path (← look name))
  if reached.changing then put name reached.source
  return reached.result

/-- Stores something where a path from a variable leads to. -/
def storeVariable (name : String) (path : List Hop) (op : Option BinaryOp) (content : Datum) :
    Run Unit := do
  let update (old : Datum) : Except Problem Datum :=
    match op with
    | none => .ok content
    | some op => Datum.updated op old content
  put name (← check (Datum.store update path (← look name)))

end Run

/-- After how many rounds a loop is given up. -/
def roundLimit : Nat := 1000000000

/-- The elements that a loop runs over. -/
def elements : Datum → Except Problem (List Datum)
  | .array items => .ok items
  | .string text => .ok (text.toList.map .char)
  | .range first last closed =>
    let count := (last.toInt - first.toInt + if closed then 1 else 0).toNat
    .ok ((List.range count).map fun k => .int (first + Int64.ofNat k))
  | other => .error (.noElements other.kind)

/-- The range between two data. -/
def rangeOf (closed : Bool) : Datum → Datum → Except Problem Datum
  | .int first, .int last => .ok (.range first last closed)
  | _, _ => .error (.unknownFunction "..")

/-- The variable that an expression is. -/
def Expr.variable? : Expr → Option String
  | .variable name => some name
  | _ => none

mutual

/-- Runs an expression. -/
def eval : Expr → Run Datum
  | .literal d => pure d
  | .variable name => Run.look name
  | .array items => do return .array (← evalItems items)
  | .map entries => do return .map (Dict.ofList (← evalEntries entries))
  | .template parts => do
    return .string (String.join ((← evalItems parts).map Datum.print))
  | .unary op operand => do Run.check (Datum.unary op (← eval operand))
  | .binary op left right => do
    let a ← eval left
    let b ← eval right
    Run.check (Datum.binary op a b)
  | .both left right => do
    if ← Run.truth (← eval left) then return .bool (← Run.truth (← eval right))
    else return .bool false
  | .either left right => do
    if ← Run.truth (← eval left) then return .bool true
    else return .bool (← Run.truth (← eval right))
  | .orElse left right => do
    let a ← eval left
    if a.isUnit then eval right else return a
  | .range closed first last => do
    let a ← eval first
    let b ← eval last
    Run.check (rangeOf closed a b)
  | .member item container => do
    let a ← eval item
    let b ← eval container
    return .bool (← Run.check (Datum.isMember a b))
  | .call name arguments => do
    let data ← evalItems arguments
    Run.callFunction name (arguments.head?.bind Expr.variable?) data
  | .chain (.variable name) links => do
    let path ← evalLinks links
    Run.walkVariable name path
  | .chain root links => do
    let path ← evalLinks links
    let start ← eval root
    return (← Run.check (Datum.walk path start)).result
  | .conditional test yes no => do
    if ← Run.truth (← eval test) then Run.inBlock (evalBody yes) else Run.inBlock (evalBody no)
  | .block body => Run.inBlock (evalBody body)
  | .whileLoop test body => do
    Run.repeatWhile roundLimit (do Run.truth (← eval test)) (Run.inBlock (evalBody body))
    return .unit
  | .forLoop name source body => do
    let items ← Run.check (elements (← eval source))
    Run.repeatFor
      (fun item => Run.inBlock do
        Run.declare name false item
        evalBody body)
      items
    return .unit

/-- Runs expressions one after the other. -/
def evalItems : List Expr → Run (List Datum)
  | [] => pure []
  | item :: rest => do
    let d ← eval item
    return d :: (← evalItems rest)

/-- Runs the entries of a map. -/
def evalEntries : List (String × Expr) → Run (List (String × Datum))
  | [] => pure []
  | (name, item) :: rest => do
    let d ← eval item
    return (name, d) :: (← evalEntries rest)

/-- Runs the indices and the arguments in a link. -/
def evalLink : Link → Run Hop
  | .property soft name => pure (.property soft name)
  | .position soft index => do return .element soft (← eval index)
  | .method soft name arguments => do return .method soft name (← evalItems arguments)

/-- Runs the indices and the arguments in links. -/
def evalLinks : List Link → Run (List Hop)
  | [] => pure []
  | link :: rest => do
    let hop ← evalLink link
    return hop :: (← evalLinks rest)

/-- Runs a statement. -/
def evalStatement : Stmt → Run Datum
  | .expression e => eval e
  | .declare constant name content => do
    Run.declare name constant (← eval content)
    return .unit
  | .assign name links op content => do
    let d ← eval content
    let path ← evalLinks links
    Run.storeVariable name path op d
    return .unit
  | .breakLoop => Run.leave .loop
  | .continueLoop => Run.leave .round
  | .finish result => do
    discard (eval result)
    Run.leave .script
  | .throwError error => do
    discard (eval error)
    Run.fail .thrown

/-- Runs statements one after the other; the result is that of the last one. -/
def evalBody : List Stmt → Run Datum
  | [] => pure .unit
  | [last] => evalStatement last
  | statement :: rest => do
    discard (evalStatement statement)
    evalBody rest

end

/-- The result of an expression. -/
def result (e : Expr) (scope : Scope) : Except Problem Datum :=
  match eval e scope with
  | .ok (d, _) => .ok d
  | .error (.problem p) => .error p
  | .error (.exit _ _) => .ok .unit

/-- The variables after some statements. -/
def scopeAfter (body : List Stmt) (scope : Scope) : Except Problem Scope :=
  match evalBody body scope with
  | .ok (_, after) => .ok after
  | .error (.problem p) => .error p
  | .error (.exit _ after) => .ok after

end BranchingStory.Script
