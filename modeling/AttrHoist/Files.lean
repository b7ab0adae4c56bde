import AttrHoist.Source.Path
import AttrHoist.Text.Quoted
import AttrHoist.Text.Utf8

/-! Files and directories, paths to them, and why a file cannot be read as text. -/

namespace AttrHoist

/-- Why a file cannot be read. A `FileSystem` lets everything be read that it holds, so it has no
`other` reasons, such as a lack of permission; a reader of another kind may have them. -/
inductive ReadFault where
  | missing
  | notDirectory
  | isDirectory
  | nullByte
  | illFormed (flaw : Text.Flaw)
  /-- Any other reason, in the words of the reader. -/
  | other (text : String)
  deriving Repr

namespace ReadFault

def reasonText : Text.FlawReason → String
  | .invalidStart => "invalid start byte"
  | .invalidContinuation => "invalid continuation byte"
  | .unexpectedEnd => "unexpected end of data"

/-- Where the bytes are not well formed, and why. -/
def flawText (f : Text.Flaw) : String :=
  let first := toString f.position
  let place := match f.bytes with
    | [b] => "byte 0x" ++ String.ofList (Text.hexDigits 2 b.toNat) ++ " in position " ++ first
    | bytes => "bytes in position " ++ first ++ "-" ++ toString (f.position + bytes.length - 1)
  "'utf-8' codec can't decode " ++ place ++ ": " ++ reasonText f.reason

/-- What is said when the file at a path cannot be read. -/
def message (path : Path) : ReadFault → String
  | missing => "[Errno 2] No such file or directory: " ++ Text.quoted path.toText
  | notDirectory => "[Errno 20] Not a directory: " ++ Text.quoted path.toText
  | isDirectory => "[Errno 21] Is a directory: " ++ Text.quoted path.toText
  | nullByte => "embedded null byte"
  | illFormed flaw => flawText flaw
  | other text => text

end ReadFault

/-- The text of bytes from a file, with unified line breaks. -/
def readText (bytes : ByteArray) : Except ReadFault String :=
  match Text.decode bytes with
  | .ok text => .ok (String.ofList (Text.unifyBreaks text.toList))
  | .error flaw => .error (.illFormed flaw)

/-- Where something is: the names on the way down from the root. -/
abbrev Location := List String

/-- What can be at a location. -/
inductive FileEntry where
  | file (bytes : ByteArray)
  | directory

/-- A file system without links. The root is a directory, listed or not. -/
structure FileSystem where
  entries : List (Location × FileEntry) := []
  /-- The working directory. -/
  current : Location := []

namespace FileSystem

def get? (fs : FileSystem) (l : Location) : Option FileEntry :=
  if l = [] then some .directory else fs.entries.lookup l

/-- Puts something at a location, in place of what was there. -/
def put (fs : FileSystem) (l : Location) (e : FileEntry) : FileSystem :=
  { fs with entries :=
      if (fs.entries.lookup l).isSome then fs.entries.map fun p => if p.1 = l then (l, e) else p
      else fs.entries ++ [(l, e)] }

/-- One step along a path. -/
def follow (fs : FileSystem) (l : Location) (part : String) : Except ReadFault Location :=
  match fs.get? l with
  | some .directory =>
    if part = ".." then .ok l.dropLast
    else if (fs.get? (l ++ [part])).isSome then .ok (l ++ [part])
    else .error .missing
  | some (.file _) => .error .notDirectory
  | none => .error .missing

/-- The location that a path leads to. -/
def locate (fs : FileSystem) (p : Path) : Except ReadFault Location :=
  if p.toText.toList.contains '\x00' then .error .nullByte
  else p.parts.foldlM fs.follow (if p.start = .relative then fs.current else [])

/-- The bytes of the file at a path. -/
def read (fs : FileSystem) (p : Path) : Except ReadFault ByteArray := do
  match fs.get? (← fs.locate p) with
  | some (.file bytes) => .ok bytes
  | some .directory => .error .isDirectory
  | none => .error .missing

/-- Replaces the bytes of the file at a path; a path that leads nowhere changes nothing. There is
room for all bytes and nothing is write-protected, so writing to a file never fails. -/
def write (fs : FileSystem) (p : Path) (bytes : ByteArray) : FileSystem :=
  match fs.locate p with
  | .ok l => fs.put l (.file bytes)
  | .error _ => fs

/-- Makes sure that there are directories down to a location. -/
def makeDirectories (fs : FileSystem) (l : Location) : FileSystem :=
  (List.range (l.length + 1)).foldl (fun fs n =>
    if (fs.get? (l.take n)).isSome then fs else fs.put (l.take n) .directory) fs

/-- A working directory below the root with the given directories and files in it. -/
def ofFiles (directories : List String) (files : List (String × ByteArray)) : FileSystem :=
  let current := ["work"]
  let here (name : String) : Location := current ++ (Path.ofText name).parts
  let fs := ({ current } : FileSystem).makeDirectories current
  let fs := directories.foldl (fun fs d => fs.makeDirectories (here d)) fs
  files.foldl (fun fs f => (fs.makeDirectories (here f.1).dropLast).put (here f.1) (.file f.2)) fs

end FileSystem

end AttrHoist
