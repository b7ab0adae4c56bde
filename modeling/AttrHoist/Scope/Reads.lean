import AttrHoist.Scope.Names
import AttrHoist.Text.Lowercase
import AttrHoist.Tree.Site

/-!
What a function reads from outside itself: the identifiers it uses, whether a use is bound inside
it, and whether it depends on the receiver around it.
-/

namespace AttrHoist

namespace Site

/-- Whether an identifier is the name of a built-in element, which refers to no declaration: the
name of a tag that starts with a small letter. -/
def isBuiltinTag (s : Site) : Bool :=
  s.parent?.any (·.kind ∈ Kind.tags) && s.node.field == some "name" &&
    s.text.toList.head?.any Text.isLowercase

/-- Whether a site is an identifier that is read. Names of members are not reads. -/
def isRead (s : Site) : Bool :=
  (s.kind == Kind.identifier || s.kind == Kind.shorthandProperty) && !s.isBuiltinTag

/-- The identifiers read in a piece of code, in reading order. -/
def reads (s : Site) : List Site :=
  s.walk.filter isRead

end Site

namespace Node

/-- The names that a function binds in its body, with its own name. -/
def bodyNames (f : Node) : List String :=
  (f.child? "body").toList.flatMap declaredNames ++ (f.child? "name").toList.map text

/-- Whether a function binds a name by itself: as a local, as its own name or as a parameter. -/
def binds (f : Node) (name : String) : Bool :=
  name ∈ f.bodyNames || name ∈ f.parameterNames

/-- Whether a function or block strictly inside the function in question binds a name for what it
encloses. -/
def innerBinds (scope : Node) (name : String) : Bool :=
  if scope.isFunction then
    name ∈ scope.parameterNames || (scope.kind ∈ Kind.functionExpressions && scope.isCalled name)
  else scope.kind ∈ Kind.blocks && name ∈ scope.declaredNames

end Node

namespace Site

/-- Whether the nearest binding of an identifier lies inside the function `f`. Scopes are asked from
the identifier outwards, up to `f` itself. -/
def boundWithin (f i : Site) : Bool :=
  (i.ancestors.findSome? fun scope =>
    if scope.samePlace f then some (f.node.binds i.text)
    else if scope.node.innerBinds i.text then some true
    else none).getD false

/-- The identifiers read in the parameters and the body of a function. -/
def functionReads (f : Site) : List Site :=
  ((f.child? "parameters").or (f.child? "parameter")).toList.flatMap reads ++
    (f.child? "body").toList.flatMap reads

/-- The reads of a function that are bound outside it. -/
def freeReads (f : Site) : List Site :=
  f.functionReads.filter fun i => !f.boundWithin i

end Site

namespace Node

/-- Whether a node stands for the receiver or for the target of a construction. -/
def isReceiver (n : Node) : Bool :=
  n.named && n.kind ∈ Kind.receivers

/-- Whether a function uses the receiver of its surroundings. Arrow functions inside it share the
receiver; the search does not enter other functions, which bind their own. -/
def readsReceiver (f : Node) : Bool :=
  (visit (fun n : Node => !n.isFunction || n.kind == Kind.arrow) f.children).any isReceiver

end Node

end AttrHoist
