import AttrHoist.Fault
import AttrHoist.Pattern.Match
import AttrHoist.Pattern.Parse

/-!
The choices of a pass: which attributes it looks at. A pass only asks whether a name is accepted, so
any test of names will do; `ofSetting` gives the test for a written pattern.
-/

namespace AttrHoist

/-- The choices of a pass. -/
structure Options where
  /-- Whether attributes of a name take part. -/
  accepts : String → Bool

/-- A value offered as filter. -/
inductive FilterSetting where
  | text (pattern : String)
  /-- Anything that is not text. -/
  | unusable
  deriving DecidableEq, Repr

/-- What comes of a value offered as filter. -/
inductive FilterVerdict where
  | passed (options : Options)
  /-- It is no filter, for the given reason. -/
  | refused (reason : String)
  /-- Looking at it breaks off. -/
  | broken (fault : Fault)

namespace Options

/-- Attributes whose name contains a match of the filter take part. -/
def ofPattern (filter : Pattern) : Options := ⟨filter.occursIn⟩

/-- Every attribute takes part: any run of characters, the empty one included, occurs in every name. -/
def default : Options := ofPattern (.times (.any false) 0 none .greedy)

instance : Inhabited Options := ⟨default⟩

/-- The options with a given filter, as far as the notation of `Pattern` goes. -/
def ofSetting : FilterSetting → Except Fault Options
  | .text pattern =>
    match Pattern.parse? pattern with
    | some filter => if filter.isOversized then .error .oversizedPattern else .ok (ofPattern filter)
    | none => .error .invalidPattern
  | .unusable => .error .notAPattern

/-- The options for a filter that may be left out. -/
def ofSetting? : Option FilterSetting → Except Fault Options
  | some setting => ofSetting setting
  | none => .ok default

/-- What comes of a filter: what is no pattern is refused, and looking at one that is too large breaks off. -/
def judge (setting : FilterSetting) : FilterVerdict :=
  match ofSetting setting with
  | .ok options => .passed options
  | .error .oversizedPattern => .broken .oversizedPattern
  | .error fault => .refused (fault.message?.getD "")

/-- Changing the filter of options that exist is refused, whatever the new filter is. -/
def assign (_ : Options) (_ : FilterSetting) : Except Fault Options := .error .frozen

end Options

end AttrHoist
