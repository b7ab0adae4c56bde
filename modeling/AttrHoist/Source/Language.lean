import AttrHoist.Fault
import AttrHoist.Source.Path

/-! The languages with markup that the pass handles, by name and by file extension. -/

namespace AttrHoist

/-- A language that the pass handles. -/
inductive Language where
  | tsx
  | typescript
  | javascript
  deriving DecidableEq, Repr, Inhabited

namespace Language

def all : List Language := [tsx, typescript, javascript]

def name : Language → String
  | tsx => "tsx"
  | typescript => "typescript"
  | javascript => "javascript"

def ofName? (name : String) : Option Language :=
  all.find? (·.name == name)

/-- The language of files with an extension. -/
def ofExtension? (extension : String) : Option Language :=
  [(".tsx", tsx), (".ts", typescript), (".mts", typescript), (".cts", typescript),
   (".jsx", javascript), (".js", javascript), (".mjs", javascript), (".cjs", javascript)].lookup extension

/-- The language of a file by its path. Capitals in the extension count as small letters; those of
ASCII are enough, since no other character has a small letter that occurs in an extension of the
list. -/
def ofPath (path : String) : Except Fault Language :=
  match ofExtension? (String.ofList ((Path.ofText path).extension.map Char.toLower)) with
  | some language => .ok language
  | none => .error (.unsupportedExtension path)

end Language

end AttrHoist
