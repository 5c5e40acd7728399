import BranchingStory.Decimal.Double
import BranchingStory.Script.Problem
import BranchingStory.Text.Blank
import BranchingStory.Word

/-!
# Tokens of scripts

Scripts are read in tokens: numbers, texts, characters, words and symbols. White space and comments
stand between them.

A text between back quotes may have holes `${…}` that hold code. It is read as a sequence of tokens:
its start, its pieces, the start and the end of each hole with the tokens of the code between them,
and its end. Since code may have braces of its own, the lexer counts, for every hole that is open,
the braces that are open in it.

A minus sign directly before a digit belongs to the number unless the token before it can end an
operand.
-/

namespace BranchingStory.Script

/-- A token of a script. -/
inductive Token
  /-- A whole number. -/
  | int (i : Int64)
  /-- A double. -/
  | float (x : Float)
  /-- A text without holes. -/
  | string (s : String)
  /-- A character. -/
  | char (c : Char)
  /-- A word. -/
  | word (w : String)
  /-- A symbol. -/
  | symbol (s : String)
  /-- The start of a text that may have holes. -/
  | openText
  /-- A piece of such a text. -/
  | piece (s : String)
  /-- The start of a hole. -/
  | openHole
  /-- The end of a hole. -/
  | closeHole
  /-- The end of a text that may have holes. -/
  | closeText
deriving Repr, Inhabited

namespace Token

/-- Words that have a meaning in the language. -/
def keywords : List String :=
  ["true", "false", "let", "const", "if", "else", "switch", "do", "while", "until", "loop", "for",
    "in", "fn", "private", "continue", "break", "return", "throw", "try", "catch", "import",
    "export", "as", "global"]

/-- Words that are kept for later versions of the language. -/
def reservedWords : List String :=
  ["public", "protected", "super", "new", "use", "module", "package", "var", "static", "shared",
    "with", "is", "goto", "exit", "match", "case", "default", "void", "null", "nil", "spawn",
    "thread", "go", "sync", "async", "await", "yield"]

/-- Words that name functions and nothing else. -/
def reservedFunctions : List String :=
  ["print", "debug", "type_of", "eval", "Fn", "call", "curry", "is_shared", "is_def_fn",
    "is_def_var", "this"]

/-- Whether a word can be the name of a variable or of a property. -/
def isFreeWord (w : String) : Bool :=
  !(keywords.contains w || reservedWords.contains w || reservedFunctions.contains w)

/-- Whether a word can be the name of a function. -/
def isFunctionWord (w : String) : Bool :=
  !(keywords.contains w || reservedWords.contains w || w == "this")

/-- Whether an operand can end with a token. -/
def endsOperand : Token → Bool
  | int _ | float _ | string _ | char _ | closeText => true
  | word w => isFreeWord w || w == "true" || w == "false" || reservedFunctions.contains w
  | symbol s => s == ")" || s == "]" || s == "\x7d" || s == "()"
  | _ => false

/-- The symbols, longer ones before those that they start with. -/
def symbols : List String :=
  ["===", "!==", "...", "..=", "::<", "**=", "<<=", ">>=",
    "()", "+=", "-=", "*=", "/=", "%=", "&=", "|=", "^=", "==", "!=", "<=", ">=", "&&", "||", "**",
    "<<", ">>", "??", "?.", "?[", "..", "::", "->", "<-", "=>", ":=", ":;", "++", "--", "(*", "*)",
    "!.", "|>", "<|", "#\x7b", "#!",
    "(", ")", "[", "]", "\x7b", "\x7d", ",", ";", ":", ".", "=", "<", ">", "+", "-", "*", "/", "%",
    "&", "|", "^", "!", "?", "~", "@", "$", "#"]

/-! ## Texts and characters -/

/-- The value of a hexadecimal digit. -/
def hexDigit? (c : Char) : Option Nat :=
  if '0' ≤ c ∧ c ≤ '9' then some (c.toNat - '0'.toNat)
  else if 'a' ≤ c ∧ c ≤ 'f' then some (c.toNat - 'a'.toNat + 10)
  else if 'A' ≤ c ∧ c ≤ 'F' then some (c.toNat - 'A'.toNat + 10)
  else none

/-- The number that hexadecimal digits stand for. -/
def hexValue? (digits : List Char) : Option Nat :=
  digits.foldlM (fun n c => (hexDigit? c).map fun d => 16 * n + d) 0

/-- The character with a code that is given by a number of hexadecimal digits. -/
def coded (count : Nat) (cs : List Char) : Except Problem Char :=
  let digits := cs.take count
  if digits.length < count then .error .malformedEscape
  else match hexValue? digits with
    | some code =>
      if h : code.isValidChar then .ok (Char.ofNatAux code h) else .error .malformedEscape
    | none => .error .malformedEscape

/-- How many hexadecimal digits follow a letter after a backslash. -/
def codeDigits? : Char → Option Nat
  | 'x' => some 2
  | 'u' => some 4
  | 'U' => some 8
  | _ => none

/-- The character that a letter after a backslash stands for. -/
def escaped? (terminator c : Char) : Option Char :=
  if c = 'n' then some '\n'
  else if c = 't' then some '\t'
  else if c = 'r' then some '\r'
  else if c = '\\' then some '\\'
  else if c = terminator then some c
  else none

/-- Reads a quoted text up to its end; what has been read is given backwards. A doubled terminator
stands for itself. -/
def readQuoted (terminator : Char) : Nat → List Char → List Char →
    Except Problem (String × List Char)
  | _, _, [] => .error .unclosedString
  | skip + 1, before, _ :: rest => readQuoted terminator skip before rest
  | 0, before, c :: rest =>
    if c = terminator then
      if rest.head? = some terminator then readQuoted terminator 1 (c :: before) rest
      else .ok (String.ofList before.reverse, rest)
    else if c = '\n' then .error .unclosedString
    else if c = '\\' then
      match rest with
      | [] => .error .unclosedString
      | e :: tail =>
        match codeDigits? e with
        | some count =>
          match coded count tail with
          | .ok c => readQuoted terminator (count + 1) (c :: before) rest
          | .error problem => .error problem
        | none =>
          match escaped? terminator e with
          | some c => readQuoted terminator 1 (c :: before) rest
          | none => .error .malformedEscape
    else readQuoted terminator 0 (c :: before) rest

/-- How a piece of a text with holes ends. -/
inductive PieceEnd
  /-- With the text. -/
  | text
  /-- With the start of a hole. -/
  | hole

/-- Reads a piece of a text with holes; what has been read is given backwards. -/
def readPiece : Nat → List Char → List Char → Except Problem (String × PieceEnd × List Char)
  | _, _, [] => .error .unclosedString
  | skip + 1, before, _ :: rest => readPiece skip before rest
  | 0, before, c :: rest =>
    if c = '\x60' then
      if rest.head? = some '\x60' then readPiece 1 (c :: before) rest
      else .ok (String.ofList before.reverse, .text, rest)
    else if c = '$' ∧ rest.head? = some '\x7b' then
      .ok (String.ofList before.reverse, .hole, rest.drop 1)
    else readPiece 0 (c :: before) rest

/-! ## Numbers -/

/-- Whether a name can start with a character. -/
def startsName (c : Char) : Bool :=
  c.isAlpha || c == '_'

/-- Whether a name can go on with a character. -/
def continuesName (c : Char) : Bool :=
  c.isAlphanum || c == '_'

/-- Whether a number can go on with a character after its first digit. -/
def isDigitOrGap (c : Char) : Bool :=
  c.isDigit || c == '_'

/-- A number in another base than ten: the bits of a whole number. -/
def readBits (base : Nat) (isDigit : Char → Bool) (cs : List Char) :
    Except Problem (Token × List Char) :=
  let text := cs.takeWhile fun c => isDigit c || c == '_'
  let rest := cs.dropWhile fun c => isDigit c || c == '_'
  let digits := text.filterMap hexDigit?
  let value := digits.foldl (fun n d => base * n + d) 0
  if digits.isEmpty || Word.bound ≤ value then .error (.malformedNumber (String.ofList text))
  else .ok (.int (UInt64.ofNat value).toInt64, rest)

/-- The number that decimal digits stand for. -/
def decimalValue (digits : List Char) : Nat :=
  digits.foldl (fun n c => 10 * n + (c.toNat - '0'.toNat)) 0

/-- The digits after a point that belongs to a number, and what follows them: the point belongs to
the number before a digit, and before anything else that starts neither a name nor a range. -/
def readFraction : List Char → List Char × Option (List Char)
  | '.' :: c :: rest =>
    if c.isDigit then
      ((c :: rest).dropWhile isDigitOrGap, some ((c :: rest).takeWhile isDigitOrGap))
    else if startsName c || c == '.' then ('.' :: c :: rest, none)
    else (c :: rest, some [])
  | rest => (rest, none)

/-- The exponent of a number, and what follows it. -/
def readExponent : List Char → Except Problem (List Char × Option Int)
  | 'e' :: c :: rest =>
    if c.isDigit then
      .ok ((c :: rest).dropWhile isDigitOrGap,
        some (decimalValue (((c :: rest).takeWhile isDigitOrGap).filter Char.isDigit)))
    else if c == '+' || c == '-' then
      let digits := (rest.takeWhile isDigitOrGap).filter Char.isDigit
      if digits.isEmpty then .error (.malformedNumber "e")
      else
        let value := Int.ofNat (decimalValue digits)
        .ok (rest.dropWhile isDigitOrGap, some (if c == '-' then -value else value))
    else .ok ('e' :: c :: rest, none)
  | rest => .ok (rest, none)

/-- A decimal number. One without point and exponent is a whole number if it fits into 64 bits. -/
def readDecimal (negative : Bool) (cs : List Char) : Except Problem (Token × List Char) :=
  let whole := (cs.takeWhile isDigitOrGap).filter Char.isDigit
  let (rest, fraction) := readFraction (cs.dropWhile isDigitOrGap)
  match readExponent rest with
  | .error problem => .error problem
  | .ok (rest, exponent) =>
    let digits := (fraction.getD []).filter Char.isDigit
    let magnitude := decimalValue (whole ++ digits)
    let signed := if negative then -Int.ofNat magnitude else Int.ofNat magnitude
    if fraction.isNone && exponent.isNone && Word.holds signed then
      .ok (.int (Int64.ofInt signed), rest)
    else
      let x := Decimal.ofDecimal magnitude (exponent.getD 0 - Int.ofNat digits.length)
      .ok (.float (if negative then -x else x), rest)

/-- A number that starts with a digit. -/
def readNumber (negative : Bool) (cs : List Char) : Except Problem (Token × List Char) :=
  let sign (result : Token × List Char) : Token × List Char :=
    match result with
    | (.int i, rest) => (.int (if negative then -i else i), rest)
    | other => other
  match cs with
  | '0' :: 'x' :: rest | '0' :: 'X' :: rest =>
    (readBits 16 (fun c => (hexDigit? c).isSome) rest).map sign
  | '0' :: 'o' :: rest | '0' :: 'O' :: rest =>
    (readBits 8 (fun c => '0' ≤ c && c ≤ '7') rest).map sign
  | '0' :: 'b' :: rest | '0' :: 'B' :: rest =>
    (readBits 2 (fun c => c == '0' || c == '1') rest).map sign
  | _ => readDecimal negative cs

/-! ## White space and comments -/

/-- What follows a comment that may have comments in it; `depth` counts those that are open. -/
def skipComment : Nat → List Char → List Char
  | 0, rest => rest
  | _, [] => []
  | depth + 1, '*' :: '/' :: rest => skipComment depth rest
  | depth + 1, '/' :: '*' :: rest => skipComment (depth + 2) rest
  | depth + 1, _ :: rest => skipComment (depth + 1) rest

/-- What follows a comment up to the end of its line. -/
def skipLine (cs : List Char) : List Char :=
  cs.dropWhile fun c => c != '\n'

/-! ## Single tokens -/

/-- A word. Before its first digit there has to be a letter. -/
def readWord (cs : List Char) : Except Problem (Token × List Char) :=
  let letters := cs.takeWhile continuesName
  let word := String.ofList letters
  if ((letters.dropWhile fun c => c == '_').head?.any Char.isAlpha) then
    .ok (.word word, cs.dropWhile continuesName)
  else .error (.malformedName word)

/-- A symbol. -/
def readSymbol (cs : List Char) : Except Problem (Token × List Char) :=
  match cs with
  | [] => .error .unexpectedEnd
  | '!' :: 'i' :: 'n' :: rest =>
    if rest.head?.any continuesName then .ok (.symbol "!", 'i' :: 'n' :: rest)
    else .ok (.symbol "!in", rest)
  | c :: rest =>
    match symbols.find? fun s => s.toList.isPrefixOf (c :: rest) with
    | some s => .ok (.symbol s, (c :: rest).drop s.length)
    | none => .error (.unexpectedCharacter c)

/-- A character between single quotes. -/
def readCharacter (cs : List Char) : Except Problem (Token × List Char) :=
  match readQuoted '\'' 0 [] cs with
  | .error problem => .error problem
  | .ok (s, rest) =>
    match s.toList with
    | [c] => .ok (.char c, rest)
    | _ => .error .malformedCharacter

/-- A token that starts with a character of its own kind. -/
def readPlain (before : Option Token) (cs : List Char) : Except Problem (Token × List Char) :=
  match cs with
  | '"' :: rest => (readQuoted '"' 0 [] rest).map fun (s, rest) => (.string s, rest)
  | '\'' :: rest => readCharacter rest
  | '-' :: c :: rest =>
    if c.isDigit && !(before.any endsOperand) then readNumber true (c :: rest)
    else readSymbol ('-' :: c :: rest)
  | c :: rest =>
    if c.isDigit then readNumber false (c :: rest)
    else if startsName c then readWord (c :: rest)
    else readSymbol (c :: rest)
  | [] => .error .unexpectedEnd

/-! ## All tokens -/

/-- How the braces in the innermost open hole change with a token. -/
def countBraces : Token → List Nat → List Nat
  | symbol "\x7b", braces :: outer => (braces + 1) :: outer
  | symbol "#\x7b", braces :: outer => (braces + 1) :: outer
  | symbol "\x7d", braces :: outer => (braces - 1) :: outer
  | _, holes => holes

/-- Reads a part of a text: a comment, a blank character, a token, or a piece of a text with holes
and the tokens around it. `holes` has, for every hole that is open, the number of braces that are
open in it; `before` has the tokens so far, backwards. -/
def readPart (holes : List Nat) (before : List Token) (cs : List Char) :
    Except Problem (List Nat × List Token × List Char) :=
  match holes, cs with
  | holes, '/' :: '/' :: rest => .ok (holes, before, skipLine rest)
  | holes, '/' :: '*' :: rest => .ok (holes, before, skipComment 1 rest)
  | holes, '\x60' :: rest =>
    let rest := match rest with
      | '\r' :: '\n' :: rest => rest
      | '\n' :: rest => rest
      | rest => rest
    match readPiece 0 [] rest with
    | .error problem => .error problem
    | .ok (s, .text, rest) => .ok (holes, .closeText :: .piece s :: .openText :: before, rest)
    | .ok (s, .hole, rest) => .ok (0 :: holes, .openHole :: .piece s :: .openText :: before, rest)
  | 0 :: holes, '\x7d' :: rest =>
    match readPiece 0 [] rest with
    | .error problem => .error problem
    | .ok (s, .text, rest) => .ok (holes, .closeText :: .piece s :: .closeHole :: before, rest)
    | .ok (s, .hole, rest) => .ok (0 :: holes, .openHole :: .piece s :: .closeHole :: before, rest)
  | holes, cs =>
    if cs.head?.any Text.isBlank then .ok (holes, before, cs.drop 1)
    else match readPlain before.head? cs with
      | .error problem => .error problem
      | .ok (token, rest) => .ok (countBraces token holes, token :: before, rest)

/-- The tokens of a text with at most `count` characters, after those in `before`. -/
def lex : Nat → List Nat → List Token → List Char → Except Problem (List Token)
  | 0, _, before, _ => .ok before.reverse
  | _ + 1, holes, before, [] => if holes.isEmpty then .ok before.reverse else .error .unexpectedEnd
  | count + 1, holes, before, c :: rest =>
    match readPart holes before (c :: rest) with
    | .error problem => .error problem
    | .ok (holes, before, rest) => lex count holes before rest

/-- The tokens of a script. -/
def tokens (script : String) : Except Problem (List Token) :=
  lex (script.length + 1) [] [] script.toList

end Token

end BranchingStory.Script
