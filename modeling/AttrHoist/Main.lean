import AttrHoist.Command.Run
import AttrHoist.Tree.Outline

/-!
The command. It reads the named files, and for each file `f` the outline of its syntax tree from
`f.outline`; a source without an outline counts as a program without parts, in which there is
nothing to hoist.
-/

namespace AttrHoist.Command

/-- The bytes of a file, or why there are none. -/
def readDisk (path : Path) : IO (Except ReadFault ByteArray) := do
  if path.toText.toList.contains '\x00' then return .error .nullByte
  try
    return .ok (← IO.FS.readBinFile path.toText)
  catch e =>
    match e with
    | .inappropriateType _ code _ =>
      return .error (if code = 21 then .isDirectory else .notDirectory)
    | .noFileOrDirectory .. => return .error .missing
    | e => return .error (.other (toString e))

/-- What the outline beside a file says about a source. -/
def readOutline (path : Path) : IO (Option Parse) := do
  match (← readDisk (Path.ofText (path.toText ++ ".outline"))) with
  | .ok bytes =>
    let parsed := (readText bytes).toOption.bind Outline.parse?
    return parsed.map fun (root, hasError) => { root, hasError }
  | .error _ => return none

/-- The source as a program without parts. -/
def bareParse (source : String) : Parse :=
  { root := .mk Kind.program 0 source.utf8ByteSize true none [] }

/-- A grammar that knows the outlines of some sources. -/
def recorded (known : List (String × Parse)) : Grammar := fun _ source =>
  some ((known.lookup source).getD (bareParse source))

/-- Runs the command on the disk and gives its exit status. -/
def runOnDisk (argv : List String) : IO UInt32 := do
  let files := match Arguments.ofStrings argv with
    | .ok a => a.files.map Path.ofText
    | .error _ => []
  let contents ← files.mapM fun path => do return (path, ← readDisk path)
  let outlines ← contents.filterMapM fun (path, bytes) => do
    match bytes >>= readText with
    | .ok source => return (← readOutline path).map fun p => (source, p)
    | .error _ => return none
  let read (path : Path) : Except ReadFault ByteArray := (contents.lookup path).getD (.error .missing)
  let o := run (recorded outlines) read argv
  for (path, text) in o.writes do
    IO.FS.writeFile path.toText text
  (← IO.getStdout).putStr o.stdout
  (← IO.getStderr).putStr o.stderr
  return o.status.toUInt32

end AttrHoist.Command

def main (argv : List String) : IO UInt32 :=
  AttrHoist.Command.runOnDisk argv
