/-!
# Blank characters

The characters with the property `White_Space` of the Unicode standard, and the two cuts that leave
them out: `trim` at both ends of a text, `trimLineEnd` for the end of a line that was read.
-/

namespace BranchingStory.Text

/-- Whether a character is white space. -/
def isBlank (c : Char) : Bool :=
  let code := c.toNat
  (0x9 ≤ code && code ≤ 0xD) || code == 0x20 || code == 0x85 || code == 0xA0 || code == 0x1680 ||
    (0x2000 ≤ code && code ≤ 0x200A) || code == 0x2028 || code == 0x2029 || code == 0x202F ||
    code == 0x205F || code == 0x3000

/-- Leaves out the characters of a class at the end of a list. -/
def dropRightWhile (p : Char → Bool) (cs : List Char) : List Char :=
  (cs.reverse.dropWhile p).reverse

/-- Leaves out the white space at both ends of a text. -/
def trim (s : String) : String :=
  String.ofList (dropRightWhile isBlank (s.toList.dropWhile isBlank))

/-- Whether a text has nothing but white space. -/
def isBlankText (s : String) : Bool :=
  s.toList.all isBlank

/-- Leaves out the line feeds and carriage returns at the end of a text. -/
def trimLineEnd (s : String) : String :=
  String.ofList (dropRightWhile (fun c => c == '\n' || c == '\r') s.toList)

end BranchingStory.Text
