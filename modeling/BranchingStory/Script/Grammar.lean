import BranchingStory.Script.Expr
import BranchingStory.Script.Token

/-!
# The grammar of scripts

Scripts are read by recursive descent over their tokens. Names are checked on the way: a variable
has to be declared before it is used, and a constant may not be assigned to.

There are two kinds of scripts. A program is a sequence of statements. A formula is one expression,
in which a block holds one expression too and loops do not occur.

Every function here has a bound for its depth as first argument. A token is passed after at most
seven calls, so the bound that `program` and `formula` start with is never reached.
-/

namespace BranchingStory.Script

/-- What is known about the place of a token in a script. -/
structure Surroundings where
  /-- The variables that are declared, the last one first, and whether they are constants. -/
  names : List (String × Bool)
  /-- Whether only expressions may occur. -/
  formula : Bool
  /-- Whether the place is inside of a loop. -/
  inLoop : Bool := false

namespace Surroundings

/-- Adds a variable that is declared. -/
def declare (s : Surroundings) (name : String) (constant : Bool) : Surroundings :=
  { s with names := (name, constant) :: s.names }

/-- The place inside of a loop. -/
def looped (s : Surroundings) : Surroundings :=
  { s with inLoop := true }

end Surroundings

namespace Grammar

/-- A way to read something from the front of some tokens; it also gives the tokens that are left. -/
abbrev Reading (α : Type) := List Token → Except Problem (α × List Token)

/-- Passes a symbol. -/
def expect (s : String) : List Token → Except Problem (List Token)
  | .symbol t :: rest => if t = s then .ok rest else .error .unexpectedToken
  | _ :: _ => .error .unexpectedToken
  | [] => .error .unexpectedEnd

/-- Passes a word of the language. -/
def expectWord (w : String) : List Token → Except Problem (List Token)
  | .word v :: rest => if v = w then .ok rest else .error .unexpectedToken
  | _ :: _ => .error .unexpectedToken
  | [] => .error .unexpectedEnd

/-- A name of a variable. -/
def readName : Reading String
  | .word w :: rest => if Token.isFreeWord w then .ok (w, rest) else .error (.reservedWord w)
  | _ :: _ => .error .unexpectedToken
  | [] => .error .unexpectedEnd

/-- Whether tokens start with a symbol. -/
def startsWith (s : String) : List Token → Bool
  | .symbol t :: _ => t == s
  | _ => false

/-- Whether tokens start with the arguments of a call. -/
def startsArguments (ts : List Token) : Bool :=
  startsWith "(" ts || startsWith "()" ts

/-! ## Operators -/

/-- How the operands of an operator are put together. -/
structure Operator where
  /-- How tightly it binds. -/
  strength : Nat
  /-- Whether it binds to the right. -/
  right : Bool
  /-- The expression. -/
  combine : Expr → Expr → Except Problem Expr

/-- An operator whose operands are always evaluated, binding to the left. -/
def plainOperator (strength : Nat) (op : BinaryOp) : Operator :=
  ⟨strength, false, fun left right => .ok (.binary op left right)⟩

/-- An operator on truth values, which data of other kinds cannot be. -/
def logicOperator (strength : Nat) (combine : Expr → Expr → Expr) : Operator :=
  ⟨strength, false, fun left right =>
    if left.isOtherLiteral || right.isOtherLiteral then .error .literalOfWrongKind
    else .ok (combine left right)⟩

/-- The operator that a symbol is. -/
def operatorOfSymbol? : String → Option Operator
  | "||" => some (logicOperator 30 .either)
  | "|" => some (plainOperator 30 .bitOr)
  | "^" => some (plainOperator 30 .bitXor)
  | "&&" => some (logicOperator 60 .both)
  | "&" => some (plainOperator 60 .bitAnd)
  | "==" => some (plainOperator 90 .equal)
  | "!=" => some (plainOperator 90 .notEqual)
  | "!in" => some ⟨110, false, fun item container =>
      .ok (.unary .complement (.member item container))⟩
  | "<" => some (plainOperator 130 .less)
  | "<=" => some (plainOperator 130 .lessEqual)
  | ">" => some (plainOperator 130 .greater)
  | ">=" => some (plainOperator 130 .greaterEqual)
  | "??" => some ⟨135, false, fun left right => .ok (.orElse left right)⟩
  | ".." => some ⟨140, false, fun first last => .ok (.range false first last)⟩
  | "..=" => some ⟨140, false, fun first last => .ok (.range true first last)⟩
  | "+" => some (plainOperator 150 .add)
  | "-" => some (plainOperator 150 .subtract)
  | "*" => some (plainOperator 180 .multiply)
  | "/" => some (plainOperator 180 .divide)
  | "%" => some (plainOperator 180 .modulo)
  | "**" => some ⟨190, true, fun left right => .ok (.binary .power left right)⟩
  | "<<" => some (plainOperator 210 .shiftLeft)
  | ">>" => some (plainOperator 210 .shiftRight)
  | _ => none

/-- The operator that a token is. -/
def operator? : Token → Option Operator
  | .symbol s => operatorOfSymbol? s
  | .word "in" => some ⟨110, false, fun item container => .ok (.member item container)⟩
  | _ => none

/-- The operator of an assignment. -/
def assignment? : Token → Option (Option BinaryOp)
  | .symbol "=" => some none
  | .symbol "+=" => some (some .add)
  | .symbol "-=" => some (some .subtract)
  | .symbol "*=" => some (some .multiply)
  | .symbol "/=" => some (some .divide)
  | .symbol "%=" => some (some .modulo)
  | .symbol "**=" => some (some .power)
  | .symbol "<<=" => some (some .shiftLeft)
  | .symbol ">>=" => some (some .shiftRight)
  | .symbol "&=" => some (some .bitAnd)
  | .symbol "|=" => some (some .bitOr)
  | .symbol "^=" => some (some .bitXor)
  | _ => none

/-- The operator before an operand. -/
def unary? : Token → Option UnaryOp
  | .symbol "-" => some .negate
  | .symbol "+" => some .keep
  | .symbol "!" => some .complement
  | _ => none

/-- An operator applied to an operand. A sign before a number belongs to the number. -/
def applyUnary : UnaryOp → Expr → Expr
  | .negate, .literal (.int i) =>
    if i = Int64.minValue then .literal (.float (-i.toFloat)) else .literal (.int (-i))
  | .negate, .literal (.float x) => .literal (.float (-x))
  | .keep, .literal (.int i) => .literal (.int i)
  | .keep, .literal (.float x) => .literal (.float x)
  | op, e => .unary op e

/-! ## Checks -/

/-- An expression that can be true. -/
def truthValue (e : Expr) : Except Problem Expr :=
  if e.isOtherLiteral then .error .literalOfWrongKind else .ok e

/-- A variable, if it is declared. -/
def declared (s : Surroundings) (name : String) : Except Problem Expr :=
  if (s.names.lookup name).isSome then .ok (.variable name) else .error (.unknownVariable name)

/-- A position in an operand, unless one of the two tells that there is none. -/
def checkPosition (root : Expr) (index : Expr) : Except Problem Unit :=
  match root with
  | .map _ => if index.isNoName then .error .literalOfWrongKind else .ok ()
  | .literal (.int _) | .literal (.string _) | .template _ | .array _ =>
    if index.isNoPosition then .error .literalOfWrongKind else .ok ()
  | _ => .ok ()

/-- An operand with what is reached from it. -/
def chainOf (root : Expr) (links : List Link) : Expr :=
  if links.isEmpty then root else .chain root links

/-- Whether a link leads to a place where something can be stored. -/
def isPlace : Link → Bool
  | .method _ _ _ => false
  | _ => true

/-- A statement that stores the value of an expression in the place that another one denotes. -/
def assign (s : Surroundings) (target : Expr) (op : Option BinaryOp) (content : Expr) :
    Except Problem Stmt :=
  match target with
  | .variable name =>
    if s.names.lookup name = some true then .error .assignmentToConstant
    else .ok (.assign name [] op content)
  | .chain (.variable name) links =>
    if links.all isPlace then .ok (.assign name links op content) else .error .notAssignable
  | _ => .error .notAssignable

/-- The pieces of a text with holes; a text without holes is data. -/
def templateOf : List Expr → Expr
  | [] => .literal (.string "")
  | [.literal (.string s)] => .literal (.string s)
  | parts => .template parts

/-! ## Expressions and statements -/

mutual

/-- An expression. -/
def readExpr : Nat → Surroundings → Reading Expr
  | 0, _, _ => .error .unexpectedEnd
  | depth + 1, s, ts => do
    let (left, ts) ← readOperand depth s ts
    readOperators depth s 0 left ts

/-- The operators that bind at least as tightly as `strength`, and their right operands. -/
def readOperators : Nat → Surroundings → Nat → Expr → Reading Expr
  | 0, _, _, _, _ => .error .unexpectedEnd
  | _ + 1, _, _, left, [] => .ok (left, [])
  | depth + 1, s, strength, left, token :: rest =>
    match operator? token with
    | none => .ok (left, token :: rest)
    | some op =>
      if op.strength < strength then .ok (left, token :: rest)
      else do
        let (right, ts) ← readOperand depth s rest
        let (right, ts) ←
          readOperators depth s (if op.right then op.strength else op.strength + 1) right ts
        readOperators depth s strength (← op.combine left right) ts

/-- An operand with the operators before it. -/
def readOperand : Nat → Surroundings → Reading Expr
  | 0, _, _ => .error .unexpectedEnd
  | _ + 1, _, [] => .error .unexpectedEnd
  | depth + 1, s, token :: rest =>
    match unary? token with
    | some op => do
      let (operand, ts) ← readOperand depth s rest
      return (applyUnary op operand, ts)
    | none => do
      let (root, ts) ← readRoot depth s (token :: rest)
      let (links, ts) ← readLinks depth s root true ts
      return (chainOf root links, ts)

/-- An operand without what is reached from it. -/
def readRoot : Nat → Surroundings → Reading Expr
  | 0, _, _ => .error .unexpectedEnd
  | _ + 1, _, [] => .error .unexpectedEnd
  | depth + 1, s, token :: rest =>
    match token with
    | .int i => .ok (.literal (.int i), rest)
    | .float x => .ok (.literal (.float x), rest)
    | .string text => .ok (.literal (.string text), rest)
    | .char c => .ok (.literal (.char c), rest)
    | .openText => do
      let (parts, ts) ← readParts depth s rest
      return (templateOf parts, ts)
    | .symbol "()" => .ok (.literal .unit, rest)
    | .symbol "(" =>
      if startsWith ")" rest then .ok (.literal .unit, rest.drop 1)
      else do
        let (e, ts) ← readExpr depth s rest
        return (e, ← expect ")" ts)
    | .symbol "[" => do
      let (items, ts) ← readItems depth s "]" rest
      return (.array items, ts)
    | .symbol "#\x7b" => do
      let (entries, ts) ← readEntries depth s [] rest
      return (.map entries, ts)
    | .symbol "|" => readParameters depth s rest
    | .symbol "||" => readFunction depth s rest
    | .symbol "\x7b" =>
      if s.formula then .error .unexpectedToken
      else do
        let (body, ts) ← readBlock depth s (token :: rest)
        return (.block body, ts)
    | .word "true" => .ok (.literal (.bool true), rest)
    | .word "false" => .ok (.literal (.bool false), rest)
    | .word "if" => readConditional depth s rest
    | .word "while" =>
      if s.formula then .error .unexpectedToken else readWhile depth s rest
    | .word "for" =>
      if s.formula then .error .unexpectedToken else readFor depth s rest
    | .word w =>
      if startsArguments rest then
        if Token.isFunctionWord w then do
          let (arguments, ts) ← readArguments depth s rest
          return (.call w arguments, ts)
        else .error (.reservedWord w)
      else if Token.isFreeWord w then do return (← declared s w, rest)
      else .error (.reservedWord w)
    | _ => .error .unexpectedToken

/-- What is reached from an operand. -/
def readLinks : Nat → Surroundings → Expr → Bool → Reading (List Link)
  | 0, _, _, _, _ => .error .unexpectedEnd
  | depth + 1, s, root, first, ts =>
    match ts with
    | .symbol "." :: rest => readProperty depth s root false rest
    | .symbol "?." :: rest => readProperty depth s root true rest
    | .symbol "[" :: rest => readPosition depth s root first false rest
    | .symbol "?[" :: rest => readPosition depth s root first true rest
    | ts => .ok ([], ts)

/-- A property or a call after a dot, and what is reached from there. -/
def readProperty : Nat → Surroundings → Expr → Bool → Reading (List Link)
  | 0, _, _, _, _ => .error .unexpectedEnd
  | depth + 1, s, root, soft, ts =>
    match ts with
    | .word w :: rest =>
      if startsArguments rest then
        if Token.isFunctionWord w then do
          let (arguments, ts) ← readArguments depth s rest
          let (links, ts) ← readLinks depth s root false ts
          return (.method soft w arguments :: links, ts)
        else .error (.reservedWord w)
      else if Token.isFreeWord w then do
        let (links, ts) ← readLinks depth s root false rest
        return (.property soft w :: links, ts)
      else .error (.reservedWord w)
    | [] => .error .unexpectedEnd
    | _ => .error .unexpectedToken

/-- A position between brackets, and what is reached from there. -/
def readPosition : Nat → Surroundings → Expr → Bool → Bool → Reading (List Link)
  | 0, _, _, _, _, _ => .error .unexpectedEnd
  | depth + 1, s, root, first, soft, ts => do
    let (index, ts) ← readExpr depth s ts
    if first then checkPosition root index
    let ts ← expect "]" ts
    let (links, ts) ← readLinks depth s root false ts
    return (.position soft index :: links, ts)

/-- The arguments of a call. -/
def readArguments : Nat → Surroundings → Reading (List Expr)
  | 0, _, _ => .error .unexpectedEnd
  | depth + 1, s, ts =>
    match ts with
    | .symbol "()" :: rest => .ok ([], rest)
    | .symbol "(" :: rest => readItems depth s ")" rest
    | _ => .error .unexpectedToken

/-- Expressions with commas between them up to a closing symbol. -/
def readItems : Nat → Surroundings → String → Reading (List Expr)
  | 0, _, _, _ => .error .unexpectedEnd
  | depth + 1, s, close, ts =>
    if startsWith close ts then .ok ([], ts.drop 1)
    else do
      let (item, ts) ← readExpr depth s ts
      if startsWith "," ts then
        let (items, ts) ← readItems depth s close (ts.drop 1)
        return (item :: items, ts)
      else return ([item], ← expect close ts)

/-- The name of an entry of a map. -/
def readKey : Nat → Reading String
  | 0, _ => .error .unexpectedEnd
  | _ + 1, ts =>
    match ts with
    | .string text :: rest => .ok (text, rest)
    | .openText :: .piece text :: .closeText :: rest => .ok (text, rest)
    | ts => readName ts

/-- The entries of a map, none of which may have a name of those in `before`. -/
def readEntries : Nat → Surroundings → List String → Reading (List (String × Expr))
  | 0, _, _, _ => .error .unexpectedEnd
  | depth + 1, s, before, ts =>
    if startsWith "\x7d" ts then .ok ([], ts.drop 1)
    else do
      let (name, ts) ← readKey depth ts
      if before.contains name then throw (.repeatedProperty name)
      let (item, ts) ← readExpr depth s (← expect ":" ts)
      if startsWith "," ts then
        let (entries, ts) ← readEntries depth s (name :: before) (ts.drop 1)
        return ((name, item) :: entries, ts)
      else return ([(name, item)], ← expect "\x7d" ts)

/-- The pieces of a text with holes. -/
def readParts : Nat → Surroundings → Reading (List Expr)
  | 0, _, _ => .error .unexpectedEnd
  | depth + 1, s, ts =>
    match ts with
    | .closeText :: rest => .ok ([], rest)
    | .piece text :: rest => do
      let (parts, ts) ← readParts depth s rest
      return (.literal (.string text) :: parts, ts)
    | .openHole :: rest => do
      let (body, ts) ← readHole depth s rest
      let (parts, ts) ← readParts depth s ts
      return (.block body :: parts, ts)
    | _ => .error .unexpectedToken

/-- The code in a hole of a text. -/
def readHole : Nat → Surroundings → Reading (List Stmt)
  | 0, _, _ => .error .unexpectedEnd
  | depth + 1, s, ts =>
    if s.formula then do
      let (statement, ts) ← readSimple depth s ts
      match ts with
      | .closeHole :: rest => return ([statement], rest)
      | _ => throw .unexpectedToken
    else do
      let (body, ts) ← readStatements depth s ts
      match ts with
      | .closeHole :: rest => return (body, rest)
      | _ => throw .unexpectedToken

/-- The parameters and the body of a function. -/
def readParameters : Nat → Surroundings → Reading Expr
  | 0, _, _ => .error .unexpectedEnd
  | depth + 1, s, ts =>
    if startsWith "|" ts then readFunction depth s (ts.drop 1)
    else do
      let (name, ts) ← readName ts
      let s := s.declare name false
      if startsWith "," ts then readParameters depth s (ts.drop 1)
      else readFunction depth s (← expect "|" ts)

/-- The body of a function. -/
def readFunction : Nat → Surroundings → Reading Expr
  | 0, _, _ => .error .unexpectedEnd
  | depth + 1, s, ts => do
    let (_, _, ts) ← readStatement depth { s with formula := false, inLoop := false } ts
    return (.literal (.function "anon"), ts)

/-- A conditional after its first word. -/
def readConditional : Nat → Surroundings → Reading Expr
  | 0, _, _ => .error .unexpectedEnd
  | depth + 1, s, ts => do
    let (test, ts) ← readExpr depth s ts
    let test ← truthValue test
    let (yes, ts) ← readBlock depth s ts
    match ts with
    | .word "else" :: .word "if" :: rest =>
      let (no, ts) ← readConditional depth s rest
      return (.conditional test yes [.expression no], ts)
    | .word "else" :: rest =>
      let (no, ts) ← readBlock depth s rest
      return (.conditional test yes no, ts)
    | ts => return (.conditional test yes [], ts)

/-- A loop with a test, after its first word. -/
def readWhile : Nat → Surroundings → Reading Expr
  | 0, _, _ => .error .unexpectedEnd
  | depth + 1, s, ts => do
    let (test, ts) ← readExpr depth s ts
    let test ← truthValue test
    let (body, ts) ← readBlock depth s.looped ts
    return (.whileLoop test body, ts)

/-- A loop over elements, after its first word. -/
def readFor : Nat → Surroundings → Reading Expr
  | 0, _, _ => .error .unexpectedEnd
  | depth + 1, s, ts => do
    let (name, ts) ← readName ts
    let (source, ts) ← readExpr depth s (← expectWord "in" ts)
    if source.isEndlessSource then throw .literalOfWrongKind
    let (body, ts) ← readBlock depth (s.declare name false).looped ts
    return (.forLoop name source body, ts)

/-- A block. -/
def readBlock : Nat → Surroundings → Reading (List Stmt)
  | 0, _, _ => .error .unexpectedEnd
  | depth + 1, s, ts => do
    let ts ← expect "\x7b" ts
    let (body, ts) ← readBody depth s ts
    return (body, ← expect "\x7d" ts)

/-- What stands between the braces of a block. -/
def readBody : Nat → Surroundings → Reading (List Stmt)
  | 0, _, _ => .error .unexpectedEnd
  | depth + 1, s, ts =>
    if s.formula then do
      let (statement, ts) ← readSimple depth s ts
      return ([statement], ts)
    else readStatements depth s ts

/-- Statements up to something that starts none. -/
def readStatements : Nat → Surroundings → Reading (List Stmt)
  | 0, _, _ => .error .unexpectedEnd
  | depth + 1, s, ts =>
    match ts with
    | [] => .ok ([], [])
    | .symbol "\x7d" :: _ => .ok ([], ts)
    | .closeHole :: _ => .ok ([], ts)
    | .symbol ";" :: rest => readStatements depth s rest
    | ts => do
      let (statement, complete, ts) ← readStatement depth s ts
      let s := match statement with
        | .declare constant name _ => s.declare name constant
        | _ => s
      let (statements, ts) ← readStatements depth s (← endStatement depth complete ts)
      return (statement :: statements, ts)

/-- Passes the semicolon after a statement that needs one, unless the statement is the last one. -/
def endStatement : Nat → Bool → List Token → Except Problem (List Token)
  | 0, _, _ => .error .unexpectedEnd
  | _ + 1, complete, ts =>
    match ts with
    | .symbol ";" :: rest => .ok rest
    | [] => .ok []
    | .symbol "\x7d" :: _ => .ok ts
    | .closeHole :: _ => .ok ts
    | ts => if complete then .ok ts else .error .unexpectedToken

/-- A statement, and whether it needs no semicolon. -/
def readStatement : Nat → Surroundings → List Token → Except Problem (Stmt × Bool × List Token)
  | 0, _, _ => .error .unexpectedEnd
  | depth + 1, s, ts =>
    match ts with
    | .word "let" :: rest => readDeclaration depth s false rest
    | .word "const" :: rest => readDeclaration depth s true rest
    | .word "if" :: rest => do
      let (e, ts) ← readConditional depth s rest
      return (.expression e, true, ts)
    | .word "while" :: rest => do
      let (e, ts) ← readWhile depth s rest
      return (.expression e, true, ts)
    | .word "for" :: rest => do
      let (e, ts) ← readFor depth s rest
      return (.expression e, true, ts)
    | .symbol "\x7b" :: _ => do
      let (body, ts) ← readBlock depth s ts
      return (.expression (.block body), true, ts)
    | .word "break" :: rest =>
      if s.inLoop then .ok (.breakLoop, false, rest) else .error .outsideLoop
    | .word "continue" :: rest =>
      if s.inLoop then .ok (.continueLoop, false, rest) else .error .outsideLoop
    | .word "return" :: rest => do
      let (e, ts) ← readResult depth s rest
      return (.finish e, false, ts)
    | .word "throw" :: rest => do
      let (e, ts) ← readResult depth s rest
      return (.throwError e, false, ts)
    | ts => do
      let (statement, ts) ← readSimple depth s ts
      return (statement, false, ts)

/-- The rest of a declaration. -/
def readDeclaration : Nat → Surroundings → Bool → List Token →
    Except Problem (Stmt × Bool × List Token)
  | 0, _, _, _ => .error .unexpectedEnd
  | depth + 1, s, constant, ts => do
    let (name, ts) ← readName ts
    if startsWith "=" ts then
      let (content, ts) ← readExpr depth s (ts.drop 1)
      return (.declare constant name content, false, ts)
    else return (.declare constant name (.literal .unit), false, ts)

/-- The expression after `return` or `throw`; it may be missing. -/
def readResult : Nat → Surroundings → Reading Expr
  | 0, _, _ => .error .unexpectedEnd
  | depth + 1, s, ts =>
    match ts with
    | [] => .ok (.literal .unit, ts)
    | .symbol ";" :: _ => .ok (.literal .unit, ts)
    | .symbol "\x7d" :: _ => .ok (.literal .unit, ts)
    | .closeHole :: _ => .ok (.literal .unit, ts)
    | ts => readExpr depth s ts

/-- An expression or an assignment. -/
def readSimple : Nat → Surroundings → Reading Stmt
  | 0, _, _ => .error .unexpectedEnd
  | depth + 1, s, ts => do
    let (target, ts) ← readExpr depth s ts
    match ts.head?.bind assignment? with
    | none => return (.expression target, ts)
    | some op =>
      let (content, ts) ← readExpr depth s (ts.drop 1)
      return (← assign s target op content, ts)

end

/-- Everything has been read. -/
def complete {α : Type} : α × List Token → Except Problem α
  | (result, []) => .ok result
  | (_, _ :: _) => .error .unexpectedToken

/-- The bound for the depth of calls that suffices for a number of tokens. -/
def bound (ts : List Token) : Nat :=
  16 * (ts.length + 1)

/-- The one variable that is declared before a script starts. -/
def given (name : String) (formula : Bool) : Surroundings where
  names := [(name, false)]
  formula

/-- Reads a script that is one expression over one variable. -/
def formula (name script : String) : Except Problem Expr := do
  let ts ← Token.tokens script
  complete (← readExpr (bound ts) (given name true) ts)

/-- Reads a script that is a sequence of statements over one variable. -/
def program (name script : String) : Except Problem (List Stmt) := do
  let ts ← Token.tokens script
  complete (← readStatements (bound ts) (given name false) ts)

end Grammar

end BranchingStory.Script
