/-!
# What goes wrong in scripts

The problems that are found when a script is read, and those that are found when it runs.
-/

namespace BranchingStory.Script

/-- Why a script cannot be read, or why its run fails. -/
inductive Problem
  /-- The text ends where more is due. -/
  | unexpectedEnd
  /-- A character that starts no token. -/
  | unexpectedCharacter (c : Char)
  /-- A token in a place where another one is due. -/
  | unexpectedToken
  /-- A numeral that stands for no number. -/
  | malformedNumber (numeral : String)
  /-- A backslash before characters that it does not go with. -/
  | malformedEscape
  /-- A character literal that does not hold one character. -/
  | malformedCharacter
  /-- A name without a letter, or with a digit before its first letter. -/
  | malformedName (name : String)
  /-- A string without its end. -/
  | unclosedString
  /-- A reserved word in the place of a name. -/
  | reservedWord (name : String)
  /-- A variable that is not declared. -/
  | unknownVariable (name : String)
  /-- A name that occurs twice in a map. -/
  | repeatedProperty (name : String)
  /-- A literal of another kind than the one due. -/
  | literalOfWrongKind
  /-- An assignment to something that holds no value. -/
  | notAssignable
  /-- An assignment to a constant. -/
  | assignmentToConstant
  /-- `break` or `continue` outside of a loop. -/
  | outsideLoop
  /-- A whole number leaves the range of 64 bits. -/
  | overflow
  /-- A whole number is divided by zero. -/
  | divisionByZero
  /-- No function has this name and takes these arguments. -/
  | unknownFunction (name : String)
  /-- A truth value is due. -/
  | booleanExpected (kind : String)
  /-- A position or a name under which nothing is held. -/
  | outOfRange
  /-- A value of this kind has no such property. -/
  | noProperty (name : String)
  /-- A value of this kind has no elements. -/
  | noElements (kind : String)
  /-- A constant would be changed. -/
  | constantChanged
  /-- A text is not the number that it should be. -/
  | notANumber (text : String)
  /-- The script gives up by itself. -/
  | thrown
  /-- The script does not come to an end. -/
  | endless
deriving Repr, DecidableEq

/-- The wording of a problem. -/
def Problem.message : Problem → String
  | .unexpectedEnd => "the script ends too early"
  | .unexpectedCharacter c => "unexpected character '" ++ c.toString ++ "'"
  | .unexpectedToken => "unexpected token"
  | .malformedNumber numeral => "malformed number " ++ numeral
  | .malformedEscape => "malformed escape"
  | .malformedCharacter => "malformed character"
  | .malformedName name => "malformed name " ++ name
  | .unclosedString => "string without its end"
  | .reservedWord name => "reserved word " ++ name
  | .unknownVariable name => "unknown variable " ++ name
  | .repeatedProperty name => "property " ++ name ++ " given twice"
  | .literalOfWrongKind => "literal of the wrong kind"
  | .notAssignable => "cannot assign to this expression"
  | .assignmentToConstant => "cannot assign to a constant"
  | .outsideLoop => "break or continue outside of a loop"
  | .overflow => "number out of range"
  | .divisionByZero => "division by zero"
  | .unknownFunction name => "no function " ++ name ++ " for these arguments"
  | .booleanExpected kind => "expected a truth value, got " ++ kind
  | .outOfRange => "no such element"
  | .noProperty name => "no property " ++ name
  | .noElements kind => "no elements in " ++ kind
  | .constantChanged => "cannot change a constant"
  | .notANumber text => "not a number: " ++ text
  | .thrown => "thrown by the script"
  | .endless => "the script does not end"

end BranchingStory.Script
