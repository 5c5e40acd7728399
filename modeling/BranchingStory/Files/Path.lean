import BranchingStory.Story.Tree

/-!
# Paths of files

A path is a text whose pieces are separated by slashes. Empty pieces and the piece `.` lead nowhere
else, so a path may be written in several ways; paths that are made from a given one keep its way of
writing.
-/

namespace BranchingStory.Files.Path

/-- The pieces of a path. -/
def pieces (path : String) : List String :=
  (NodeTree.splitAt '/' path.toList).map String.ofList

/-- Whether a piece of a path leads nowhere else. -/
def isIdle (piece : String) : Bool :=
  piece = "" || piece = "."

/-- The path of something in a directory. -/
def join (directory name : String) : String :=
  if directory = "" then name
  else if directory.endsWith "/" then directory ++ name
  else directory ++ "/" ++ name

/-- The name of what a path leads to, if the path tells it. -/
def name? (path : String) : Option String :=
  ((pieces path).filter fun piece => !isIdle piece).getLast?.bind fun piece =>
    if piece = ".." then none else some piece

/-- The pieces without those at the end that lead nowhere else, except for a first one. -/
def dropIdle : List String → List String
  | [] => []
  | first :: rest => first :: (rest.reverse.dropWhile isIdle).reverse

/-- The path of the directory that what a path leads to lies in. -/
def parent (path : String) : String :=
  match dropIdle (dropIdle (pieces path)).dropLast with
  | [""] => "/"
  | kept => String.intercalate "/" kept

/-- The name of the file that holds the story of a directory. -/
def storyFileName : String := "story.json"

/-- How the names of all other files that hold stories end. -/
def storyFileEnding : String := ".story.json"

/-- Whether the file at a path holds a story, judged by its name. -/
def isStoryFile (path : String) : Bool :=
  (name? path).any fun name => name = storyFileName || name.endsWith storyFileEnding

end BranchingStory.Files.Path
