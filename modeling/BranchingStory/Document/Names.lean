import BranchingStory.Text.Blank

/-!
# Names in story documents

The name of a variable has to be an identifier, so that scripts can reach the variable. The name of
a node or group is one step of an address: it is not empty and holds neither the dot that separates
names in addresses nor white space.
-/

namespace BranchingStory.Document

/-- Whether an identifier can start with a character. -/
def startsIdentifier (c : Char) : Bool :=
  c.isAlpha || c == '_'

/-- Whether an identifier can go on with a character. -/
def continuesIdentifier (c : Char) : Bool :=
  c.isAlphanum || c == '_'

/-- Whether a text is an identifier. -/
def isVariableName (name : String) : Bool :=
  match name.toList with
  | [] => false
  | c :: rest => startsIdentifier c && rest.all continuesIdentifier

/-- Whether a text can be the name of a node or group. -/
def isNodeName (name : String) : Bool :=
  name != "" && name.toList.all fun c => c != '.' && !Text.isBlank c

end BranchingStory.Document
