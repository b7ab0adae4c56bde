import AttrHoist.Fault
import AttrHoist.Options
import AttrHoist.Source.Language
import AttrHoist.Text.Decimal
import AttrHoist.Text.Quoted

/-!
Command-line arguments. Options have a long and a short spelling; a long one may be shortened as
long as it stays unique, short ones may be written together, and a value may be joined to its
option. The files are the first unbroken run of other arguments. A double dash ends the options.

Readers of such arguments differ in what they make of odd ones. This one takes an equals sign behind an
option in short spelling for a mark that is left out, also where the option has no value, so that `-w=v`
is `-wv`; a value that is a double dash for no value; and an unknown letter among short options for a
value of the one before it. A call may be read in other ways, see `Dialect`.
-/

namespace AttrHoist.Command

/-- An option of the command line. -/
inductive Flag where
  | help
  | propRegex
  | language
  | write
  | verbose
  deriving DecidableEq, Repr

namespace Flag

def all : List Flag := [help, propRegex, language, write, verbose]

/-- The spellings of an option, in the order in which they are listed. -/
def spellings : Flag → List String
  | help => ["-h", "--help"]
  | propRegex => ["--prop-regex", "-p"]
  | language => ["--language", "-l"]
  | write => ["--write", "-w"]
  | verbose => ["--verbose", "-v"]

def takesValue : Flag → Bool
  | propRegex | language => true
  | _ => false

/-- Every spelling with its option. -/
def table : List (String × Flag) :=
  all.flatMap fun f => f.spellings.map fun s => (s, f)

def ofSpelling? (spelling : String) : Option Flag := table.lookup spelling

end Flag

/-- Why arguments are refused. -/
inductive UsageFault where
  | ambiguous (arg : String) (spellings : List String)
  | expectedValue (flag : Flag)
  | ignoredValue (flag : Flag) (value : String)
  | invalidChoice (flag : Flag) (value : String)
  | missingFiles
  | unrecognized (args : List String)
  deriving Repr

namespace UsageFault

/-- A fault of one option. -/
def about (flag : Flag) (text : String) : String :=
  "argument " ++ String.intercalate "/" flag.spellings ++ ": " ++ text

def message : UsageFault → String
  | ambiguous arg spellings =>
    "ambiguous option: " ++ arg ++ " could match " ++ String.intercalate ", " spellings
  | expectedValue flag => about flag "expected one argument"
  | ignoredValue flag value => about flag ("ignored explicit argument " ++ Text.quoted value)
  | invalidChoice flag value =>
    let choices := String.intercalate ", " (Language.all.map fun l => Text.quoted l.name)
    about flag ("invalid choice: " ++ Text.quoted value ++ " (choose from " ++ choices ++ ")")
  | missingFiles => "the following arguments are required: files"
  | unrecognized args => "unrecognized arguments: " ++ String.intercalate " " args

end UsageFault

/-- How an argument before the double dash reads. -/
inductive Word where
  | operand (text : String)
  /-- An option in a long or a short spelling, with the value joined to it. -/
  | option (flag : Flag) (isLong : Bool) (joined : Option (List Char))
  /-- It looks like an option and is none. -/
  | unknown (text : String)
  deriving Repr

namespace Word

/-- Whether an argument is a negative number; a line break after it does not matter. -/
def isNegativeNumber : List Char → Bool
  | '-' :: rest =>
    let digits := if rest.getLast? = some '\n' then rest.dropLast else rest
    let fraction := digits.dropWhile Text.isDecimal
    match fraction with
    | [] => !digits.isEmpty
    | point :: places => point == '.' && !places.isEmpty && places.all Text.isDecimal
  | _ => false

/-- Splits at the first equals sign. -/
def splitEquals (arg : List Char) : List Char × Option (List Char) :=
  (arg.takeWhile (· ≠ '='), (arg.dropWhile (· ≠ '=')).tail?)

/-- The options that a shortened long spelling may stand for. -/
def completions (start : List Char) : List (String × Flag) :=
  Flag.table.filter fun (spelling, _) => start.isPrefixOf spelling.toList

/-- Reads an argument that starts with a dash, has more characters and is no exact spelling. -/
def ofDashed (arg : String) : Except UsageFault Word :=
  let chars := arg.toList
  let (start, value) := splitEquals chars
  let isLong := chars.take 2 = ['-', '-']
  match value, Flag.ofSpelling? (String.ofList start) with
  | some _, some flag => .ok (.option flag isLong value)
  | _, _ =>
    let found := if isLong then completions start else []
    match found, Flag.ofSpelling? (String.ofList (chars.take 2)) with
    | [(_, flag)], _ => .ok (.option flag true value)
    | _ :: _ :: _, _ => .error (.ambiguous arg (found.map (·.1)))
    | [], some flag => .ok (.option flag false (some (chars.drop 2)))
    | [], none =>
      if isNegativeNumber chars || chars.contains ' ' then .ok (.operand arg) else .ok (.unknown arg)

/-- How an argument reads. -/
def ofArgument (arg : String) : Except UsageFault Word :=
  if arg.toList.head? ≠ some '-' || arg = "-" then .ok (.operand arg)
  else match Flag.ofSpelling? arg with
    | some flag => .ok (.option flag (arg.toList.take 2 = ['-', '-']) none)
    | none => ofDashed arg

end Word

/-- What one argument with options comes to. -/
structure Expansion where
  /-- The options in it, with their values. -/
  actions : List (Flag × Option String) := []
  /-- Its last option, if that looks for its value in the next argument. -/
  wanting : Option Flag := none

namespace Expansion

/-- An option with nothing joined to it. -/
def alone (flag : Flag) : Expansion :=
  if flag.takesValue then { wanting := some flag } else { actions := [(flag, none)] }

/-- An option that takes what is joined to it; a double dash stands for no value. -/
def valued (flag : Flag) (value : List Char) : Expansion :=
  { actions := [(flag, if value = ['-', '-'] then none else some (String.ofList value))] }

end Expansion

/-- Takes apart an option in short spelling that has no value and what is joined to it: further
options in short spelling, up to one that takes the remaining characters as its value. -/
def expandShort (flag : Flag) : List Char → Except UsageFault Expansion
  | [] => .error (.ignoredValue flag "")
  | c :: cs =>
    let taken (e : Expansion) : Expansion := { e with actions := (flag, none) :: e.actions }
    match Flag.ofSpelling? (String.ofList ['-', c]) with
    | none => .error (.ignoredValue flag (String.ofList (c :: cs)))
    | some next =>
      if cs.isEmpty then .ok (taken (.alone next))
      else if next.takesValue then .ok (taken (.valued next cs))
      else (expandShort next cs).map taken

/-- Takes apart an argument with options. -/
def expand (flag : Flag) (isLong : Bool) : Option (List Char) → Except UsageFault Expansion
  | none => .ok (.alone flag)
  | some value =>
    if flag.takesValue then .ok (.valued flag value)
    else if isLong then .error (.ignoredValue flag (String.ofList value))
    else expandShort flag value

/-- What the command is asked to do. -/
structure Arguments where
  files : List String := []
  propRegex : FilterSetting := .text ".*"
  language : Option Language := none
  write : Bool := false
  verbose : Bool := false
  deriving Repr

/-- Why the command does not go on to its work. -/
inductive Stop where
  | help
  /-- The call is refused, with these words. -/
  | refused (text : String)
  /-- A check breaks off. -/
  | broken (fault : Fault)
  deriving DecidableEq, Repr

/-- Arguments at fault are refused. -/
def UsageFault.stop (fault : UsageFault) : Stop := .refused fault.message

/-- Acts on one option. -/
def Arguments.act (a : Arguments) : Flag × Option String → Except Stop Arguments
  | (.help, _) => .error .help
  | (.propRegex, value) => .ok { a with propRegex := value.elim .unusable .text }
  | (.language, none) => .ok { a with language := none }
  | (.language, some value) =>
    match Language.ofName? value with
    | some l => .ok { a with language := some l }
    | none => .error (UsageFault.invalidChoice .language value).stop
  | (.write, _) => .ok { a with write := true }
  | (.verbose, _) => .ok { a with verbose := true }

/-- Arguments as far as they have been read. The run of files is over once an option follows it;
what comes later has no place and is left over. -/
structure Progress where
  arguments : Arguments := {}
  runOver : Bool := false
  leftOver : List String := []

namespace Progress

/-- Takes an argument that is no option. -/
def operand (p : Progress) (text : String) : Progress :=
  if p.runOver then { p with leftOver := p.leftOver ++ [text] }
  else { p with arguments := { p.arguments with files := p.arguments.files ++ [text] } }

/-- Notes that something other than a file comes next. -/
def interrupt (p : Progress) : Progress :=
  { p with runOver := p.runOver || !p.arguments.files.isEmpty }

def leave (p : Progress) (texts : List String) : Progress :=
  { p with leftOver := p.leftOver ++ texts }

/-- Acts on options in order. -/
def act (p : Progress) (actions : List (Flag × Option String)) : Except Stop Progress := do
  return { p with arguments := ← actions.foldlM Arguments.act p.arguments }

/-- Reads the words before the double dash. -/
def readWords (p : Progress) : List Word → Except Stop Progress
  | [] => .ok p
  | .operand text :: ws => (p.operand text).readWords ws
  | .unknown text :: ws => (p.interrupt.leave [text]).readWords ws
  | .option flag isLong joined :: ws =>
    match expand flag isLong joined with
    | .error fault => .error fault.stop
    | .ok e =>
      let p := p.interrupt
      match e.wanting, ws with
      | none, ws => do (← p.act e.actions).readWords ws
      | some last, .operand value :: ws => do
        (← p.act (e.actions ++ [(last, some value)])).readWords ws
      | some last, _ => .error (UsageFault.expectedValue last).stop

/-- Takes what follows the double dash, if there is one. -/
def readRest (p : Progress) : Option (List String) → Progress
  | none => p
  | some rest => if p.runOver then p.leave ("--" :: rest) else rest.foldl operand p

end Progress

/-- Reads the arguments of a call. -/
def Arguments.ofStrings (argv : List String) : Except Stop Arguments := do
  let before := argv.takeWhile (· ≠ "--")
  let words ← (before.mapM Word.ofArgument).mapError UsageFault.stop
  let p := (← ({} : Progress).readWords words).readRest (argv.dropWhile (· ≠ "--")).tail?
  if p.arguments.files.isEmpty then throw UsageFault.missingFiles.stop
  if !p.leftOver.isEmpty then throw (UsageFault.unrecognized p.leftOver).stop
  return p.arguments

end AttrHoist.Command
