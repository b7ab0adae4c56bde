import AttrHoist.Command.Arguments
import AttrHoist.Command.Manual
import AttrHoist.Files
import AttrHoist.Source.Hoist

/-!
The command line as a function from arguments and file contents to an outcome. All files are read
and checked before any result is printed or written, so a call that is refused leaves every file as
it was. How arguments are read and filters are judged is given from outside, like the grammar and the
files; `standard` is how this library does it.
-/

namespace AttrHoist.Command

/-- What a call leads to. -/
structure Outcome where
  status : Nat
  stdout : String := ""
  stderr : String := ""
  /-- What cut the work short. -/
  fault : Option Fault := none
  /-- The files to write, in order. -/
  writes : List (Path × String) := []

/-- A file that passed the checks. -/
structure Input where
  path : Path
  language : Language
  source : String

/-- Checks and reads one file: first its language, then its contents. -/
def readInput (read : Path → Except ReadFault ByteArray) (language : Option Language) (file : String) :
    Except Stop Input := do
  let path := Path.ofText file
  let l ← match language, Language.ofPath file with
    | some l, _ => pure l
    | none, .ok l => pure l
    | none, .error fault => throw (.refused (fault.message?.getD ""))
  match read path >>= readText with
  | .ok source => return ⟨path, l, source⟩
  | .error fault => throw (.refused (fault.message path))

/-- The log line of an event. -/
def logLine (e : Event) : String :=
  e.channel ++ ": " ++ e.message ++ "\n"

/-- The log of events: all of them, or only warnings. -/
def logText (verbose : Bool) (events : List Event) : String :=
  String.join ((events.filter fun e => verbose || e.level = .warning).map logLine)

/-- Adds what one file comes to. Without writing, its result is printed, under its path if it is not
alone. -/
def deliver (a : Arguments) (i : Input) (result : String) (o : Outcome) : Outcome :=
  if a.write then
    if result = i.source then o
    else
      { o with
        writes := o.writes ++ [(i.path, result)]
        stderr := o.stderr ++ logText a.verbose [.wrote i.path.toText] }
  else
    let heading := if a.files.length > 1 then "// " ++ i.path.toText ++ "\n" else ""
    { o with stdout := o.stdout ++ heading ++ result }

/-- Hoists in the files one after the other. A source without a usable syntax tree ends the work. -/
def process (g : Grammar) (options : Options) (a : Arguments) : List Input → Outcome → Outcome
  | [], o => o
  | i :: is, o =>
    let hoisted : Traced (Except Fault String) := (g.hoistSource i.source i.language.name options).run
    let o := { o with stderr := o.stderr ++ logText a.verbose hoisted.events }
    match hoisted.value with
    | .ok result => process g options a is (deliver a i result o)
    | .error fault => { o with status := 1, fault := some fault }

/-- What a call leads to whose work does not start. -/
def Stop.outcome : Stop → Outcome
  | help => { status := 0, stdout := Command.help }
  | refused text => { status := 2, stderr := complaint text }
  | broken fault => { status := 1, fault := some fault }

/-- The options that a verdict on the filter of a call gives. -/
def filterOptions : FilterVerdict → Except Stop Options
  | .passed options => .ok options
  | .refused reason => .error (.refused ("invalid --prop-regex: " ++ reason))
  | .broken fault => .error (.broken fault)

/-- How calls are understood: how arguments are read, and how filters are judged. -/
structure Dialect where
  arguments : List String → Except Stop Arguments
  filter : FilterSetting → FilterVerdict

namespace Dialect

/-- Arguments and filters as this library reads them. -/
def standard : Dialect := ⟨Arguments.ofStrings, Options.judge⟩

section
variable (d : Dialect)

/-- What is checked after the arguments and before the work starts: the filter, then the files from
left to right. -/
def prepare (read : Path → Except ReadFault ByteArray) (a : Arguments) :
    Except Stop (Options × List Input) := do
  let options ← filterOptions (d.filter a.propRegex)
  return (options, ← a.files.mapM (readInput read a.language))

/-- Carries out a call, given how files are read. -/
def run (g : Grammar) (read : Path → Except ReadFault ByteArray) (argv : List String) : Outcome :=
  match d.arguments argv with
  | .error stop => stop.outcome
  | .ok a =>
    match d.prepare read a with
    | .error stop => stop.outcome
    | .ok (options, inputs) => process g options a inputs { status := 0 }

/-- Carries out a call in a file system and writes the results back to it. -/
def runIn (g : Grammar) (fs : FileSystem) (argv : List String) : Outcome × FileSystem :=
  let o := d.run g fs.read argv
  (o, o.writes.foldl (fun fs w => fs.write w.1 w.2.toUTF8) fs)

end

end Dialect

/-- Carries out a call in the standard dialect. -/
def run (g : Grammar) (read : Path → Except ReadFault ByteArray) (argv : List String) : Outcome :=
  Dialect.standard.run g read argv

/-- Carries out a call in the standard dialect and in a file system. -/
def runIn (g : Grammar) (fs : FileSystem) (argv : List String) : Outcome × FileSystem :=
  Dialect.standard.runIn g fs argv

end AttrHoist.Command
