import BranchingStory.Review.Gate

/-!
# Arguments of the command line

The first argument names what is to be done, the others are options: `play` needs the path of a
story and takes a gate, `check` needs a path and takes two flags. The flag `--verbose` may stand
before and after the name.

An option has its value behind an equals sign or in the next argument, which then must not look like
an option itself. Every option may be given once. Arguments are read from left to right, and the
first one that is refused decides.
-/

namespace BranchingStory.Console

/-- What is to be done. -/
inductive Request
  /-- Play the story at a path. -/
  | play (story : String) (gate : Review.Gate)
  /-- Check the story files at a path. -/
  | check (path : String) (denyWarnings json : Bool)
deriving Repr, DecidableEq

/-- The path of the files that a request is about. -/
def Request.path : Request → String
  | play story _ => story
  | check path _ _ => path

/-- Why arguments are no request. -/
inductive Refusal
  /-- They ask how the program is used. -/
  | help
  /-- They break the rules. -/
  | invalid
deriving Repr, DecidableEq

/-- The options that are given, with their values; flags have none. -/
abbrev Given := List (String × Option String)

namespace Given

/-- Whether a flag is given. -/
def hasFlag (given : Given) (name : String) : Bool :=
  (given.lookup name).isSome

/-- The value of an option. -/
def value? (given : Given) (name : String) : Option String :=
  (given.lookup name).join

/-- Adds an option that has not been given yet. -/
def add (given : Given) (name : String) (value : Option String) : Except Refusal Given :=
  if given.hasFlag name then .error .invalid else .ok ((name, value) :: given)

end Given

/-- An argument in its parts before and after the first equals sign. -/
def splitOption (argument : String) : String × Option String :=
  let cs := argument.toList
  let name := cs.takeWhile fun c => c != '='
  match cs.drop name.length with
  | [] => (argument, none)
  | _ :: value => (String.ofList name, some (String.ofList value))

/-- Whether an argument looks like an option. -/
def looksLikeOption (argument : String) : Bool :=
  argument.startsWith "-" && argument != "-"

/-- Whether an argument asks how the program is used. -/
def asksForHelp (argument : String) : Bool :=
  argument = "--help" || argument = "-h"

/-- The options that a request takes. -/
structure Options where
  /-- The names of the options that have a value, with the values they may have. -/
  valued : List (String × (String → Bool))
  /-- The names of the options that have none. -/
  flags : List String

namespace Options

/-- Adds an option with a value, if the option takes it. -/
def addValue (options : Options) (given : Given) (name value : String) : Except Refusal Given :=
  match options.valued.lookup name with
  | some accepts => do
    let given ← given.add name (some value)
    if accepts value then return given else throw .invalid
  | none => .error .invalid

/-- Whether an option has a value. -/
def takesValue (options : Options) (name : String) : Bool :=
  (options.valued.lookup name).isSome

/-- Reads options. -/
def read (options : Options) : List String → Given → Except Refusal Given
  | [], given => .ok given
  | argument :: rest, given =>
    if asksForHelp argument then .error .help
    else if argument = "--" then if rest.isEmpty then .ok given else .error .invalid
    else
      match splitOption argument with
      | (name, some value) => do read options rest (← options.addValue given name value)
      | (name, none) =>
        if options.flags.contains name then do read options rest (← given.add name none)
        else if options.takesValue name then
          match rest with
          | [] => .error .invalid
          | value :: rest =>
            if looksLikeOption value then .error .invalid
            else do read options rest (← options.addValue given name value)
        else .error .invalid

end Options

/-- The flag that tells more about what is done. -/
def verboseFlag : String := "--verbose"

/-- A request that is understood. -/
structure Understood where
  /-- The request. -/
  request : Request
  /-- Whether more is to be told about what is done. -/
  verbose : Bool
deriving Repr, DecidableEq

/-- The options of `play`. -/
def playOptions : Options where
  valued := [("--story", fun _ => true), ("--gate", fun name => (Review.Gate.ofName? name).isSome)]
  flags := [verboseFlag]

/-- The options of `check`. -/
def checkOptions : Options where
  valued := [("--path", fun _ => true)]
  flags := [verboseFlag, "--deny-warnings", "--json"]

/-- The gate that is given, and the one that holds back errors otherwise. -/
def Given.gate (given : Given) : Review.Gate :=
  ((given.value? "--gate").bind Review.Gate.ofName?).getD .errors

/-- The request that the arguments after its name make. -/
def readRequest (name : String) (arguments : List String) : Except Refusal Understood :=
  match name with
  | "play" => do
    let given ← playOptions.read arguments []
    match given.value? "--story" with
    | some story => return ⟨.play story given.gate, given.hasFlag verboseFlag⟩
    | none => throw .invalid
  | "check" => do
    let given ← checkOptions.read arguments []
    match given.value? "--path" with
    | some path =>
      return ⟨.check path (given.hasFlag "--deny-warnings") (given.hasFlag "--json"),
        given.hasFlag verboseFlag⟩
    | none => throw .invalid
  | "help" =>
    match arguments with
    | [] => .error .help
    | [topic] => .error (if ["play", "check", "help"].contains topic then .help else .invalid)
    | _ => .error .invalid
  | _ => .error .invalid

/-- The request that arguments make. -/
def readArguments (arguments : List String) : Except Refusal Understood :=
  match arguments with
  | [] => .error .invalid
  | first :: rest =>
    if asksForHelp first then .error .help
    else if first = verboseFlag then
      match rest with
      | [] => .error .invalid
      | name :: rest =>
        if asksForHelp name then .error .help
        else (readRequest name rest).map fun understood => { understood with verbose := true }
    else readRequest first rest

end BranchingStory.Console
