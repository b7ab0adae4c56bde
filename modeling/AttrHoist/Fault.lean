/-! The ways in which a request can fail, and their wording. -/

namespace AttrHoist

/-- Why a request could not be carried out. -/
inductive Fault where
  | unsupportedLanguage (name : String)
  | unsupportedExtension (path : String)
  /-- A filter is no well-formed pattern. -/
  | invalidPattern
  /-- A filter is not even text. -/
  | notAPattern
  /-- A filter repeats something more often than can be counted. -/
  | oversizedPattern
  /-- Options do not change once they are made. -/
  | frozen
  /-- The grammar has no syntax tree for a source. -/
  | noTree
  /-- A boundary of the syntax tree lies inside a character. -/
  | undecodable
  deriving DecidableEq, Repr

/-- What is said about a fault; an undecodable source is reported without words. -/
def Fault.message? : Fault → Option String
  | unsupportedLanguage name => some ("Unsupported language for hoisting: " ++ name)
  | unsupportedExtension path => some ("Unsupported file extension for hoisting: " ++ path)
  | invalidPattern => some "Input should be a valid regular expression"
  | notAPattern => some "Input should be a valid pattern"
  | oversizedPattern => some "the repetition number is too large"
  | frozen => some "Instance is frozen"
  | noTree => some "the input holds no syntax tree for this source"
  | undecodable => none

end AttrHoist
