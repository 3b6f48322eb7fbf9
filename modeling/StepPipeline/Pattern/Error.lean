/-!
# Why a pattern is refused
-/

namespace StepPipeline.Pattern

/-- The most room, in bytes, that a pattern may take once it is laid out. -/
def sizeLimit : Nat := 10485760

/-- Why a pattern is refused. -/
inductive Error where
  | unclosedGroup
  | unopenedGroup
  | lookAround
  | badGroupName
  | repeatedGroupName (name : String)
  | badFlags
  | nothingToRepeat
  | badCount
  | badEscape
  | backReference
  | badCodePoint
  | unknownProperty (name : String)
  | unclosedBracket
  | badRange
  | notUnicode
  | tooDeep
  /-- It takes more room than `sizeLimit`. -/
  | tooLarge
  deriving DecidableEq, Inhabited

namespace Error

def reason : Error → String
  | unclosedGroup => "unclosed group"
  | unopenedGroup => "unopened group"
  | lookAround => "look-around, including look-ahead and look-behind, is not supported"
  | badGroupName => "invalid capture group name"
  | repeatedGroupName name => s!"duplicate capture group name: {name}"
  | badFlags => "invalid flags"
  | nothingToRepeat => "repetition operator missing expression"
  | badCount => "invalid repetition count"
  | badEscape => "unrecognized escape sequence"
  | backReference => "backreferences are not supported"
  | badCodePoint => "hexadecimal literal is not a Unicode scalar value"
  | unknownProperty name => s!"Unicode property not found: {name}"
  | unclosedBracket => "unclosed character class"
  | badRange => "invalid character class range"
  | notUnicode => "pattern can match invalid text"
  | tooDeep => "exceeds the nest limit"
  | tooLarge => s!"Compiled regex exceeds size limit of {sizeLimit} bytes."

/-- The text of an error; a pattern that is too large can be read. -/
def message (e : Error) : String :=
  if e = tooLarge then e.reason else s!"regex parse error: {e.reason}"

end Error
end StepPipeline.Pattern
