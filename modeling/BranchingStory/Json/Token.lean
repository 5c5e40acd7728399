import BranchingStory.Json.Numeral

/-!
# JSON tokens

The tokens of a text are found by a machine that takes one character at a time: what it has read of
a token so far is its mode, and a character may end one token and be another one by itself.

A numeral that is too large and a string with half a surrogate pair are tokens too, without a value:
whether that matters is known only to the one who wants the value.
-/

namespace BranchingStory.Json

/-- A token. -/
inductive Token
  /-- The bracket `\x7b`. -/
  | openObject
  /-- The bracket `\x7d`. -/
  | closeObject
  /-- The bracket `[`. -/
  | openArray
  /-- The bracket `]`. -/
  | closeArray
  /-- A colon. -/
  | colon
  /-- A comma. -/
  | comma
  /-- A string; one with half a surrogate pair has no text. -/
  | string (text : Option String)
  /-- A numeral; one that is too large has no number. -/
  | number (n : Option Number)
  /-- One of the words `true` and `false`. -/
  | bool (b : Bool)
  /-- The word `null`. -/
  | null

/-- A string of which the beginning has been read. -/
structure Partial where
  /-- The characters so far, the last one first. -/
  chars : List Char := []
  /-- The first half of a surrogate pair whose second half is due. -/
  high : Option Nat := none
  /-- Whether half a pair has been met. -/
  broken : Bool := false

namespace Partial

/-- Takes a character. -/
def push (p : Partial) (c : Char) : Partial where
  chars := c :: p.chars
  high := none
  broken := p.broken || p.high.isSome

/-- Takes a character given by its code, or half of one. -/
def pushCode (p : Partial) (code : Nat) : Partial :=
  let isHigh := 0xD800 ≤ code && code < 0xDC00
  let isLow := 0xDC00 ≤ code && code < 0xE000
  match p.high with
  | some high =>
    if isLow then
      { p with
        chars := Char.ofNat (0x10000 + (high - 0xD800) * 0x400 + (code - 0xDC00)) :: p.chars
        high := none }
    else { p with high := none, broken := true }
  | none =>
    if isHigh then { p with high := some code }
    else if isLow then { p with broken := true }
    else { p with chars := Char.ofNat code :: p.chars }

/-- The text of a string that has been read to its end. -/
def text (p : Partial) : Option String :=
  if p.broken || p.high.isSome then none else some (String.ofList p.chars.reverse)

end Partial

/-- What has been read of the current token. -/
inductive Mode
  /-- Nothing. -/
  | between
  /-- The letters of a word, the last one first. -/
  | word (letters : List Char)
  /-- The characters of a numeral, the last one first. -/
  | numeral (chars : List Char)
  /-- The beginning of a string. -/
  | text (p : Partial)
  /-- The beginning of a string and a backslash. -/
  | escape (p : Partial)
  /-- The beginning of a string and some of the four digits of a code. -/
  | code (p : Partial) (digits : Nat) (value : Nat)

namespace Mode

/-- Whether a character can occur in a numeral. -/
def inNumeral (c : Char) : Bool :=
  c.isDigit || c == '-' || c == '+' || c == '.' || c == 'e' || c == 'E'

/-- The value of a hexadecimal digit. -/
def hexDigit? (c : Char) : Option Nat :=
  if c.isDigit then some (c.toNat - 0x30)
  else if 'a' ≤ c ∧ c ≤ 'f' then some (c.toNat - 0x57)
  else if 'A' ≤ c ∧ c ≤ 'F' then some (c.toNat - 0x37)
  else none

/-- The character that a letter stands for after a backslash. -/
def escaped? (c : Char) : Option Char :=
  match c with
  | '"' => some '"'
  | '\\' => some '\\'
  | '/' => some '/'
  | 'b' => some '\x08'
  | 'f' => some '\x0c'
  | 'n' => some '\n'
  | 'r' => some '\r'
  | 't' => some '\t'
  | _ => none

/-- The token of a complete numeral. -/
def endNumeral (chars : List Char) : Except Problem Token :=
  match Numeral.ofChars? chars.reverse with
  | some n => .ok (.number n.number?)
  | none => .error (.malformedNumber (String.ofList chars.reverse))

/-- The token of a complete word. -/
def endWord (letters : List Char) : Except Problem Token :=
  match String.ofList letters.reverse with
  | "true" => .ok (.bool true)
  | "false" => .ok (.bool false)
  | "null" => .ok .null
  | other => .error (.unknownWord other)

/-- Takes a character between two tokens. -/
def start (c : Char) : Except Problem (Mode × List Token) :=
  match c with
  | ' ' | '\t' | '\n' | '\r' => .ok (between, [])
  | '\x7b' => .ok (between, [.openObject])
  | '\x7d' => .ok (between, [.closeObject])
  | '[' => .ok (between, [.openArray])
  | ']' => .ok (between, [.closeArray])
  | ':' => .ok (between, [.colon])
  | ',' => .ok (between, [.comma])
  | '"' => .ok (text {}, [])
  | c =>
    if c.isDigit ∨ c = '-' then .ok (numeral [c], [])
    else if 'a' ≤ c ∧ c ≤ 'z' then .ok (word [c], [])
    else .error (.unexpectedCharacter c)

/-- Takes a character: the new mode and the tokens that the character completes. -/
def step (mode : Mode) (c : Char) : Except Problem (Mode × List Token) :=
  match mode with
  | between => start c
  | word letters =>
    if 'a' ≤ c ∧ c ≤ 'z' then .ok (word (c :: letters), [])
    else do
      let token ← endWord letters
      let (mode, tokens) ← start c
      return (mode, token :: tokens)
  | numeral chars =>
    if inNumeral c then .ok (numeral (c :: chars), [])
    else do
      let token ← endNumeral chars
      let (mode, tokens) ← start c
      return (mode, token :: tokens)
  | text p =>
    if c = '"' then .ok (between, [.string p.text])
    else if c = '\\' then .ok (escape p, [])
    else if c.toNat < 0x20 then .error (.controlCharacter c)
    else .ok (text (p.push c), [])
  | escape p =>
    if c = 'u' then .ok (code p 0 0, [])
    else match escaped? c with
      | some e => .ok (text (p.push e), [])
      | none => .error (.malformedEscape c)
  | code p digits value =>
    match hexDigit? c with
    | none => .error (.malformedEscape c)
    | some d =>
      if digits = 3 then .ok (text (p.pushCode (16 * value + d)), [])
      else .ok (code p (digits + 1) (16 * value + d), [])

/-- The token that the end of the text completes. -/
def finish : Mode → Except Problem (List Token)
  | between => .ok []
  | word letters => do return [← endWord letters]
  | numeral chars => do return [← endNumeral chars]
  | _ => .error .unexpectedEnd

/-- The tokens of a text from a mode on; those before it are given backwards. -/
def run : Mode → List Token → List Char → Except Problem (List Token)
  | mode, before, [] => do return before.reverse ++ (← mode.finish)
  | mode, before, c :: rest =>
    match mode.step c with
    | .error problem => .error problem
    | .ok (mode, tokens) => run mode (tokens.reverse ++ before) rest

end Mode

/-- The tokens of a text. -/
def tokens (cs : List Char) : Except Problem (List Token) :=
  Mode.between.run [] cs

end BranchingStory.Json
