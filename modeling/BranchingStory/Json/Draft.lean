import BranchingStory.Json.Token

/-!
# Reading JSON

A draft is a value as it stands in a text: a number may be too large, a string may hold half a
surrogate pair, and nothing bounds how deep values lie in one another. Only a part of a text whose
value is wanted has to be better than that; the fields of a record that nobody asked for need only
be well formed. `Draft.toJson` makes the step from a draft to a value, and `Draft.record` looks into
a draft without making it.

Drafts are built from tokens by a second machine, which keeps the arrays and objects that have been
opened and not yet closed.
-/

namespace BranchingStory.Json

/-- A value as it stands in a text. -/
inductive Draft
  /-- The value `null`. -/
  | null
  /-- A truth value. -/
  | bool (b : Bool)
  /-- A number, unless it is too large. -/
  | number (n : Option Number)
  /-- A string, unless it holds half a surrogate pair. -/
  | string (s : Option String)
  /-- An array. -/
  | array (items : List Draft)
  /-- An object, as its fields in the order of the text. -/
  | object (fields : List (Option String × Draft))
deriving Inhabited

/-! ## From tokens to drafts -/

/-- An array or object that has been opened and not yet closed; what it holds is given backwards. -/
inductive Frame
  /-- An array and its elements so far. -/
  | array (items : List Draft)
  /-- An object, its fields so far, and the name of the field whose value is due. -/
  | object (fields : List (Option String × Draft)) (name : Option String)

/-- What may come next. -/
inductive Due
  /-- A value. -/
  | value
  /-- A value or the end of an array. -/
  | firstItem
  /-- The name of a field. -/
  | name
  /-- The name of a field or the end of an object. -/
  | firstName
  /-- A colon. -/
  | colon
  /-- A comma or the end of an array or object. -/
  | separator
  /-- Nothing: the value is complete. -/
  | nothing (value : Draft)

/-- The state of the machine that builds drafts. -/
structure Builder where
  /-- What is open, the innermost first. -/
  frames : List Frame
  /-- What may come next. -/
  due : Due

namespace Builder

/-- Puts a complete value into what is open. -/
def put (value : Draft) : List Frame → Builder
  | [] => ⟨[], .nothing value⟩
  | .array items :: outer => ⟨.array (value :: items) :: outer, .separator⟩
  | .object fields name :: outer => ⟨.object ((name, value) :: fields) none :: outer, .separator⟩

/-- Closes the innermost array. -/
def closeArray : List Frame → Except Problem Builder
  | .array items :: outer => .ok (put (.array items.reverse) outer)
  | _ => .error .misplacedToken

/-- Closes the innermost object. -/
def closeObject : List Frame → Except Problem Builder
  | .object fields _ :: outer => .ok (put (.object fields.reverse) outer)
  | _ => .error .misplacedToken

/-- Takes a token with which a value starts. -/
def startValue (frames : List Frame) : Token → Except Problem Builder
  | .openObject => .ok ⟨.object [] none :: frames, .firstName⟩
  | .openArray => .ok ⟨.array [] :: frames, .firstItem⟩
  | .string text => .ok (put (.string text) frames)
  | .number n => .ok (put (.number n) frames)
  | .bool b => .ok (put (.bool b) frames)
  | .null => .ok (put .null frames)
  | _ => .error .misplacedToken

/-- Takes the name of a field. -/
def startField (frames : List Frame) : Token → Except Problem Builder
  | .string text =>
    match frames with
    | .object fields _ :: outer => .ok ⟨.object fields text :: outer, .colon⟩
    | _ => .error .misplacedToken
  | _ => .error .misplacedToken

/-- Takes the comma after an element or a field. -/
def separate (frames : List Frame) : Except Problem Builder :=
  match frames with
  | .array _ :: _ => .ok ⟨frames, .value⟩
  | .object _ _ :: _ => .ok ⟨frames, .name⟩
  | [] => .error .misplacedToken

/-- Takes a token. -/
def step (b : Builder) (token : Token) : Except Problem Builder :=
  match b.due, token with
  | .value, token => startValue b.frames token
  | .firstItem, .closeArray => closeArray b.frames
  | .firstItem, token => startValue b.frames token
  | .name, token => startField b.frames token
  | .firstName, .closeObject => closeObject b.frames
  | .firstName, token => startField b.frames token
  | .colon, .colon => .ok ⟨b.frames, .value⟩
  | .separator, .comma => separate b.frames
  | .separator, .closeArray => closeArray b.frames
  | .separator, .closeObject => closeObject b.frames
  | _, _ => .error .misplacedToken

/-- The value that is complete after all tokens. -/
def result (b : Builder) : Except Problem Draft :=
  match b.due with
  | .nothing value => .ok value
  | _ => .error .unexpectedEnd

/-- Takes tokens one after the other. -/
def run : Builder → List Token → Except Problem Builder
  | b, [] => .ok b
  | b, token :: rest =>
    match b.step token with
    | .error problem => .error problem
    | .ok b => run b rest

end Builder

namespace Draft

/-- The draft that a text consists of. -/
def parse (s : String) : Except Problem Draft := do
  let b ← Builder.run ⟨[], .value⟩ (← tokens s.toList)
  b.result

/-! ## From drafts to values -/

/-- The value of a draft in which arrays and objects lie at most `levels` deep in one another. -/
def toJson : Nat → Draft → Except Problem Json
  | _, null => .ok .null
  | _, bool b => .ok (.bool b)
  | _, number (some n) => .ok (.number n)
  | _, number none => .error .numberOutOfRange
  | _, string (some s) => .ok (.string s)
  | _, string none => .error .unpairedSurrogate
  | 0, _ => .error .nestedTooDeeply
  | levels + 1, array items => return .array (← items.mapM (toJson levels))
  | levels + 1, object fields => return .object (← fields.mapM fun field =>
      match field with
      | (some name, value) => return (name, ← toJson levels value)
      | (none, _) => .error .unpairedSurrogate)

/-- The fields of a record by name: a known field may occur once, all others are passed over. -/
def namedFields (known : List String) :
    List (Option String × Draft) → Except Problem (List (String × Draft))
  | [] => .ok []
  | (none, _) :: _ => .error .unpairedSurrogate
  | (some name, value) :: rest => do
    let others ← namedFields known rest
    if name ∉ known then return others
    else if (others.lookup name).isSome then .error (.repeatedField name)
    else return (name, value) :: others

/-- The fields of a record, which is given as an object or as the array of its fields in order. -/
def record (known : List String) : Draft → Except Problem (List (String × Draft))
  | object fields => namedFields known fields
  | array items =>
    if known.length < items.length then .error .surplusElement else .ok (known.zip items)
  | _ => .error (.unexpectedShape "a record")

end Draft

/-- How deep arrays and objects may lie in one another. -/
def maxDepth : Nat := 127

/-- The value that a text consists of. -/
def parse (s : String) : Except Problem Json := do
  (← Draft.parse s).toJson maxDepth

end BranchingStory.Json
