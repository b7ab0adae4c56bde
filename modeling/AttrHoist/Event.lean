import AttrHoist.Scope.Declaration
import AttrHoist.Tree.Kind

/-! What the program reports while it works, as data; the wording is in `Event.message`. -/

namespace AttrHoist

/-- How much an event matters. -/
inductive Level where
  | debug
  | info
  | warning
  deriving DecidableEq, Repr

def Level.word : Level → String
  | debug => "DEBUG"
  | info => "INFO"
  | warning => "WARNING"

/-- One thing worth reporting. -/
inductive Event where
  /-- Work on a source of the given length starts. -/
  | started (language : String) (length : Nat)
  /-- The grammar found errors in a source. -/
  | malformed (language : String)
  /-- A name was looked up outside every program. -/
  | noProgram (name : String)
  /-- A candidate lies outside every function. -/
  | atModuleLevel (kind : Kind)
  /-- An object has a member that is no plain pair. -/
  | memberBlocks (kind : Kind)
  /-- An object has a computed key. -/
  | computedKey
  /-- An expression of this kind is never moved. -/
  | neverMoved (kind : Kind)
  /-- A name refers to something that may change. -/
  | changeable (name : String) (declaration : Declaration)
  /-- An arrow function depends on the receiver around it. -/
  | outerReceiver
  /-- An expression got a name. -/
  | registered (name : String) (kind : Kind)
  /-- A reference took the place of an expression. -/
  | replaced (kind : Kind) (name : String)
  /-- A pass moved this many values. -/
  | moved (count : Nat)
  /-- A file was written. -/
  | wrote (path : String)
  deriving DecidableEq, Repr

namespace Event

def level : Event → Level
  | started .. | moved .. | wrote .. => .info
  | malformed .. => .warning
  | _ => .debug

/-- The part of the program that an event comes from. -/
def channel : Event → String
  | started .. => "hoister.api"
  | malformed .. => "hoister.parser"
  | noProgram .. => "hoister.resolver"
  | atModuleLevel .. | memberBlocks .. | computedKey | neverMoved .. | changeable .. | outerReceiver =>
    "hoister.purity"
  | registered .. => "hoister.registry"
  | replaced .. | moved .. => "hoister.rewriter"
  | wrote .. => "hoister.cli"

def message : Event → String
  | started language length => s!"Hoisting {language} source ({length} bytes)"
  | malformed language => s!"Parse of {language} source contains syntax errors"
  | noProgram name => s!"Identifier {name} has no enclosing program"
  | atModuleLevel kind => s!"Candidate {kind} at module level; not hoisting"
  | memberBlocks kind => s!"Object member {kind} blocks hoisting"
  | computedKey => "Computed key blocks hoisting"
  | neverMoved kind => s!"Expression kind {kind} is never hoisted"
  | changeable name declaration =>
    "Identifier " ++ name ++ " resolves to " ++ declaration.word ++ "; not hoisting"
  | outerReceiver => "Arrow function uses its enclosing receiver; not hoisting"
  | registered name kind => s!"Registered {name} for {kind}"
  | replaced kind name => s!"Replaced {kind} with reference {name}"
  | moved count => s!"Hoisted {count} attribute value(s)"
  | wrote path => s!"Rewrote {path}"

end Event

end AttrHoist
