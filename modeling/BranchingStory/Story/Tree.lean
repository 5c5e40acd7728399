import BranchingStory.Story.Step

/-!
# The tree of nodes

The nodes of a story form a tree of names: a leaf is a node with its steps, a group holds nodes and
groups under names. A leaf is addressed by the names on the way to it, joined by dots. `resolve`
follows an address; `leaves` lists all leaves with their addresses, depth first and, in each group,
in the order of the names.
-/

namespace BranchingStory

/-- A node with its steps, or a group of named trees. -/
inductive NodeTree
  /-- A node. -/
  | leaf (steps : List Step)
  /-- A group; its children are a dictionary. -/
  | group (children : List (String × NodeTree))

namespace NodeTree

instance : Inhabited NodeTree := ⟨group []⟩

/-- Puts a tree under a name of a group, in place of the one that is there. A leaf stays as it is.
-/
def addChild : NodeTree → String → NodeTree → NodeTree
  | group children, name, child => group (Dict.insert children name child)
  | leaf steps, _, _ => leaf steps

/-- Whether a leaf has no steps or a group no children. -/
def isEmpty : NodeTree → Bool
  | leaf steps => steps.isEmpty
  | group children => children.isEmpty

/-! ## Addresses -/

/-- The pieces of a text between the occurrences of a separator. -/
def splitAt (separator : Char) : List Char → List (List Char)
  | [] => [[]]
  | c :: rest =>
    if c = separator then [] :: splitAt separator rest
    else match splitAt separator rest with
      | [] => [[c]]
      | piece :: pieces => (c :: piece) :: pieces

/-- The names in an address. -/
def segments (path : String) : List String :=
  (splitAt '.' path.toList).map String.ofList

/-- The address with the given names. -/
def joinPath (names : List String) : String :=
  String.intercalate "." names

/-- Why an address leads to no leaf. -/
inductive AddressProblem
  /-- The way ends after the names in `reached`. -/
  | notFound (path reached : String)
  /-- The address leads to a group. -/
  | isGroup (path : String)
deriving Repr, DecidableEq

/-- The message about an address that leads to no leaf. -/
def AddressProblem.message : AddressProblem → String
  | .notFound path reached =>
    "Node \"" ++ path ++ "\" does not exist (longest valid prefix: \"" ++ reached ++ "\")."
  | .isGroup path => "Node path \"" ++ path ++ "\" names a group, not a step sequence."

/-- What is told about an address that leads to no leaf. -/
def AddressProblem.report (problem : AddressProblem) : Report where
  code := match problem with
    | .notFound _ _ => "RESOLVE_NODE_NOT_FOUND"
    | .isGroup _ => "RESOLVE_NODE_IS_GROUP"
  message := problem.message

/-- Follows names down a tree. If one of them is not there, the result is the names that are. -/
def descend : NodeTree → List String → List String → Except (List String) NodeTree
  | tree, _, [] => .ok tree
  | leaf _, passed, _ :: _ => .error passed
  | group children, passed, name :: rest =>
    match Dict.get? children name with
    | some child => descend child (passed ++ [name]) rest
    | none => .error passed

/-- The steps of the leaf at an address. -/
def resolve (tree : NodeTree) (path : String) : Except AddressProblem (List Step) :=
  match tree.descend [] (segments path) with
  | .ok (leaf steps) => .ok steps
  | .ok (group _) => .error (.isGroup path)
  | .error reached => .error (.notFound path (joinPath reached))

/-! ## Leaves -/

mutual

/-- The leaves of a tree that stands below some names, each with all names on the way to it. -/
def leavesBelow (above : List String) : NodeTree → List (List String × List Step)
  | leaf steps => [(above, steps)]
  | group children => leavesAmong above children

/-- The leaves of the children of a group. -/
def leavesAmong (above : List String) : List (String × NodeTree) → List (List String × List Step)
  | [] => []
  | (name, child) :: rest => leavesBelow (above ++ [name]) child ++ leavesAmong above rest

end

/-- The leaves of a tree with their addresses. A tree that is nothing but a leaf has no address for
it, and so no leaves. -/
def leaves : NodeTree → List (String × List Step)
  | leaf _ => []
  | group children => (leavesAmong [] children).map fun found => (joinPath found.1, found.2)

/-- The addresses of the leaves of a tree. -/
def leafPaths (tree : NodeTree) : List String :=
  tree.leaves.map Prod.fst

end NodeTree

end BranchingStory
