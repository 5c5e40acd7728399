import BranchingStory.Dict
import BranchingStory.Files.Path

/-!
# Trees of files

What can be read of a file system: files with their bytes, and directories, in which files and
directories have names. `find` follows a path and `filesBelow` lists all files, in each directory in
the order of the names.
-/

namespace BranchingStory.Files

/-- Why a file cannot be read. -/
inductive ReadError
  /-- There is nothing at the path. -/
  | notFound
  /-- The path leads through something that is no directory. -/
  | notDirectory
  /-- There is a directory at the path. -/
  | isDirectory
  /-- The bytes are no text. -/
  | notText
deriving Repr, DecidableEq, Inhabited

/-- The wording of an error. -/
def ReadError.message : ReadError → String
  | notFound => "No such file or directory (os error 2)"
  | notDirectory => "Not a directory (os error 20)"
  | isDirectory => "Is a directory (os error 21)"
  | notText => "stream did not contain valid UTF-8"

/-- A file with its bytes, or a directory. -/
inductive FileTree
  /-- A file. -/
  | file (bytes : ByteArray)
  /-- A directory; its entries are a dictionary. -/
  | directory (entries : List (String × FileTree))
deriving Inhabited

namespace FileTree

/-- The text that bytes are. -/
def decode (bytes : ByteArray) : Except ReadError String :=
  match String.fromUTF8? bytes with
  | some s => .ok s
  | none => .error .notText

@[simp] theorem decode_toUTF8 (s : String) : decode s.toUTF8 = .ok s := by
  have hs : String.fromUTF8? s.toUTF8 = some s := dif_pos s.isValidUTF8
  rw [decode, hs]

/-- The text of a file. -/
def text : FileTree → Except ReadError String
  | file bytes => decode bytes
  | directory _ => .error .isDirectory

/-! ## Following paths -/

/-- Follows the pieces of a path. The directories on the way are kept in `above`, the last one
first, for the piece `..`. -/
def follow : List FileTree → FileTree → List String → Except ReadError FileTree
  | _, tree, [] => .ok tree
  | _, file _, _ :: _ => .error .notDirectory
  | above, directory entries, piece :: rest =>
    if Path.isIdle piece then follow above (directory entries) rest
    else if piece = ".." then
      match above with
      | [] => follow [] (directory entries) rest
      | parent :: above => follow above parent rest
    else
      match Dict.get? entries piece with
      | some tree => follow (directory entries :: above) tree rest
      | none => .error .notFound

/-- What is at a path below a directory. -/
def find (tree : FileTree) (path : String) : Except ReadError FileTree :=
  if path = "" ∨ path.startsWith "/" then .error .notFound
  else follow [] tree (Path.pieces path)

/-- The text of the file at a path. -/
def read (tree : FileTree) (path : String) : Except ReadError String := do
  (← tree.find path).text

/-! ## Building trees -/

/-- Puts something under names below a directory; directories on the way are made. -/
def put (content : FileTree) : List String → FileTree → FileTree
  | [], _ => content
  | name :: rest, file _ => directory [(name, put content rest (directory []))]
  | name :: rest, directory entries =>
    directory
      (Dict.insert entries name (put content rest ((Dict.get? entries name).getD (directory []))))

/-! ## Listing files -/

mutual

/-- The files in what is at a path, with their paths and their bytes. -/
def filesBelow (path : String) : FileTree → List (String × ByteArray)
  | file bytes => [(path, bytes)]
  | directory entries => filesAmong path entries

/-- The files among the entries of the directory at a path. -/
def filesAmong (path : String) : List (String × FileTree) → List (String × ByteArray)
  | [] => []
  | (name, tree) :: rest => filesBelow (Path.join path name) tree ++ filesAmong path rest

end

/-- The paths of the files in what is at a path. -/
def filePaths (path : String) (tree : FileTree) : List String :=
  (filesBelow path tree).map Prod.fst

end FileTree

end BranchingStory.Files
