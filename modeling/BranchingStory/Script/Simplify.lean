import BranchingStory.Script.Operation

/-!
# Simplifying scripts

A script is simplified once before it runs. Operators on data that stand in the script are computed,
and operands that are `true` in a conjunction, or `false` in a disjunction, are left out. Therefore
the other operand need not be a truth value then.
-/

namespace BranchingStory.Script

namespace Expr

/-- The datum that an expression is, if it is neither a text with holes nor a collection. -/
def literal? : Expr → Option Datum
  | literal d => some d
  | _ => none

/-- An operator on two expressions, computed if both are data and nothing is wrong with them. -/
def foldBinary (op : BinaryOp) (left right : Expr) : Expr :=
  match left.literal?, right.literal? with
  | some a, some b =>
    match Datum.binary op a b with
    | .ok d => literal d
    | .error _ => binary op left right
  | _, _ => binary op left right

/-- A conjunction. -/
def foldBoth (left right : Expr) : Expr :=
  match left, right with
  | literal (.bool true), right => right
  | literal (.bool false), _ => literal (.bool false)
  | left, literal (.bool true) => left
  | left, right => both left right

/-- A disjunction. -/
def foldEither (left right : Expr) : Expr :=
  match left, right with
  | literal (.bool false), right => right
  | literal (.bool true), _ => literal (.bool true)
  | left, literal (.bool false) => left
  | left, right => either left right

end Expr

mutual

/-- A simpler form of an expression. -/
def simplify : Expr → Expr
  | .literal d => .literal d
  | .variable name => .variable name
  | .array items => .array (simplifyItems items)
  | .map entries => .map (simplifyEntries entries)
  | .template parts => .template (simplifyItems parts)
  | .unary op operand => .unary op (simplify operand)
  | .binary op left right => Expr.foldBinary op (simplify left) (simplify right)
  | .both left right => Expr.foldBoth (simplify left) (simplify right)
  | .either left right => Expr.foldEither (simplify left) (simplify right)
  | .orElse left right => .orElse (simplify left) (simplify right)
  | .range closed first last => .range closed (simplify first) (simplify last)
  | .member item container => .member (simplify item) (simplify container)
  | .call name arguments => .call name (simplifyItems arguments)
  | .chain root links => .chain (simplify root) (simplifyLinks links)
  | .conditional test yes no =>
    .conditional (simplify test) (simplifyBody yes) (simplifyBody no)
  | .block body => .block (simplifyBody body)
  | .whileLoop test body => .whileLoop (simplify test) (simplifyBody body)
  | .forLoop name source body => .forLoop name (simplify source) (simplifyBody body)

/-- Simpler forms of expressions. -/
def simplifyItems : List Expr → List Expr
  | [] => []
  | item :: rest => simplify item :: simplifyItems rest

/-- Simpler forms of the entries of a map. -/
def simplifyEntries : List (String × Expr) → List (String × Expr)
  | [] => []
  | (name, item) :: rest => (name, simplify item) :: simplifyEntries rest

/-- A simpler form of a link. -/
def simplifyLink : Link → Link
  | .property soft name => .property soft name
  | .position soft index => .position soft (simplify index)
  | .method soft name arguments => .method soft name (simplifyItems arguments)

/-- Simpler forms of links. -/
def simplifyLinks : List Link → List Link
  | [] => []
  | link :: rest => simplifyLink link :: simplifyLinks rest

/-- A simpler form of a statement. -/
def simplifyStatement : Stmt → Stmt
  | .expression e => .expression (simplify e)
  | .declare constant name content => .declare constant name (simplify content)
  | .assign name links op content => .assign name (simplifyLinks links) op (simplify content)
  | .breakLoop => .breakLoop
  | .continueLoop => .continueLoop
  | .finish result => .finish (simplify result)
  | .throwError error => .throwError (simplify error)

/-- Simpler forms of statements. -/
def simplifyBody : List Stmt → List Stmt
  | [] => []
  | statement :: rest => simplifyStatement statement :: simplifyBody rest

end

end BranchingStory.Script
