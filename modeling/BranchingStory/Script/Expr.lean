import BranchingStory.Script.Datum

/-!
# Expressions and statements of scripts

An operand followed by properties, positions and calls is a chain: the operand is its root, and each
of the others is a link that leads into what was reached so far. A chain whose root is a variable
also says where something can be stored.

Conditionals, blocks and loops are expressions, as they may stand where a value is due.
-/

namespace BranchingStory.Script

/-- An operator with two operands, both of which are always evaluated. -/
inductive BinaryOp
  /-- The sum, or one text or collection after the other. -/
  | add
  /-- The difference, or a text without the parts that are another. -/
  | subtract
  /-- The product. -/
  | multiply
  /-- The quotient. -/
  | divide
  /-- The remainder, which has the sign of the dividend. -/
  | modulo
  /-- The power. -/
  | power
  /-- The bits moved towards the higher ones. -/
  | shiftLeft
  /-- The bits moved towards the lower ones. -/
  | shiftRight
  /-- The bits, or truth values, that are set on both sides. -/
  | bitAnd
  /-- The bits, or truth values, that are set on one side at least. -/
  | bitOr
  /-- The bits, or truth values, that are set on one side only. -/
  | bitXor
  /-- Whether both are equal. -/
  | equal
  /-- Whether both are unequal. -/
  | notEqual
  /-- Whether the left one is less. -/
  | less
  /-- Whether the left one is not greater. -/
  | lessEqual
  /-- Whether the left one is greater. -/
  | greater
  /-- Whether the left one is not less. -/
  | greaterEqual
deriving Repr, DecidableEq, Inhabited

/-- An operator with one operand. -/
inductive UnaryOp
  /-- The number with the other sign. -/
  | negate
  /-- The number itself. -/
  | keep
  /-- The other truth value. -/
  | complement
deriving Repr, DecidableEq, Inhabited

mutual

/-- An expression. -/
inductive Expr
  /-- Data that stand in the script. -/
  | literal (datum : Datum)
  /-- A variable. -/
  | variable (name : String)
  /-- An array. -/
  | array (items : List Expr)
  /-- A map. -/
  | map (entries : List (String × Expr))
  /-- A text with holes, as its pieces and the code in its holes. -/
  | template (parts : List Expr)
  /-- An operator with one operand. -/
  | unary (op : UnaryOp) (operand : Expr)
  /-- An operator with two operands. -/
  | binary (op : BinaryOp) (left right : Expr)
  /-- Whether both operands are true. -/
  | both (left right : Expr)
  /-- Whether one of the operands is true. -/
  | either (left right : Expr)
  /-- The left operand, or the right one if the left one is no value. -/
  | orElse (left right : Expr)
  /-- The whole numbers from one up to another. -/
  | range (closed : Bool) (first last : Expr)
  /-- Whether something is an element of something. -/
  | member (item container : Expr)
  /-- A call of a function. -/
  | call (function : String) (arguments : List Expr)
  /-- An operand with what is reached from it. -/
  | chain (root : Expr) (links : List Link)
  /-- One of two blocks, as a test comes out. -/
  | conditional (test : Expr) (yes no : List Stmt)
  /-- A block. -/
  | block (body : List Stmt)
  /-- A block that is repeated while a test is true. -/
  | whileLoop (test : Expr) (body : List Stmt)
  /-- A block that is repeated for every element. -/
  | forLoop (name : String) (source : Expr) (body : List Stmt)

/-- A link of a chain. A soft link ends the chain if it starts at no value. -/
inductive Link
  /-- A property. -/
  | property (soft : Bool) (name : String)
  /-- What is at a position, or under a name. -/
  | position (soft : Bool) (index : Expr)
  /-- A call of a function with what was reached as first argument. -/
  | method (soft : Bool) (name : String) (arguments : List Expr)

/-- A statement. -/
inductive Stmt
  /-- An expression. -/
  | expression (e : Expr)
  /-- A new variable, or a new constant, with what it holds. -/
  | declare (constant : Bool) (name : String) (content : Expr)
  /-- Stores something in the place that links lead to from a variable. With an operator, what is
  stored is made of what is there. -/
  | assign (name : String) (links : List Link) (op : Option BinaryOp) (content : Expr)
  /-- Ends the innermost loop. -/
  | breakLoop
  /-- Ends the current round of the innermost loop. -/
  | continueLoop
  /-- Ends the script. -/
  | finish (result : Expr)
  /-- Makes the script fail. -/
  | throwError (error : Expr)

end

instance : Inhabited Expr := ⟨.literal .unit⟩

instance : Inhabited Stmt := ⟨.expression default⟩

namespace Expr

/-- Whether an expression is data other than a truth value. -/
def isOtherLiteral : Expr → Bool
  | literal (.bool _) => false
  | literal _ => true
  | template _ => true
  | array _ => true
  | map _ => true
  | _ => false

/-- Whether an expression stands in the script as data over which no loop can run. -/
def isEndlessSource : Expr → Bool
  | literal (.string _) => false
  | literal _ => true
  | map _ => true
  | _ => false

/-- Whether a literal or a logical expression cannot be a position in an array, text or number. -/
def isNoPosition : Expr → Bool
  | literal (.int _) => false
  | literal _ => true
  | template _ => true
  | both _ _ => true
  | either _ _ => true
  | _ => false

/-- Whether a literal or a logical expression cannot be a name in a map. -/
def isNoName : Expr → Bool
  | literal (.string _) => false
  | literal _ => true
  | both _ _ => true
  | either _ _ => true
  | _ => false

end Expr

end BranchingStory.Script
