import AttrHoist.Attribute
import AttrHoist.Constancy

/-!
Reports on a tree: what the analyses say about each of its nodes. Nodes are numbered in reading
order, the root being 0.
-/

namespace AttrHoist

/-- Whether one sequence of characters comes before another, by code point. -/
def charsPrecede : List Char → List Char → Bool
  | _, [] => false
  | [], _ :: _ => true
  | c :: cs, d :: ds => c.toNat < d.toNat || (c == d && charsPrecede cs ds)

/-- The names of a list in order of their code points, each once. -/
def sortedNames (names : List String) : List String :=
  (names.mergeSort fun a b => !charsPrecede b.toList a.toList).eraseDups

/-- What is known about a function. -/
structure FunctionReport where
  index : Nat
  /-- The names declared in its body, and its own. -/
  declared : List String
  parameters : List String
  readsReceiver : Bool
  pureEnough : Bool
  /-- The identifiers it reads, and whether each is bound inside it. -/
  reads : List (Nat × Bool)
  /-- Whether the first identifier read in the whole tree counts as bound inside it. -/
  firstBound : Option Bool
  deriving Repr

/-- What the classification says about a tree. -/
structure TreeReport where
  constants : List Nat
  candidates : List (Nat × Bool)
  attributes : List (Nat × Option String)
  references : List (Nat × String × Declaration)
  functions : List FunctionReport
  deriving Repr

namespace Node

/-- What is known about the function at a numbered site, given the first identifier read in the
whole tree. What lies below a site has the numbers that follow its own. -/
def functionReport (resolver : Resolver) (first : Option Site) (f : Site) (index : Nat) :
    FunctionReport where
  index
  declared := sortedNames f.node.bodyNames
  parameters := sortedNames f.node.parameterNames
  readsReceiver := f.node.readsReceiver
  pureEnough := (resolver.pureEnough f).value
  reads := (f.walk.zipIdx index).filterMap fun (s, i) =>
    if s.isRead then some (i, f.boundWithin s) else none
  firstBound := first.map f.boundWithin

/-- The classification of every node. -/
def report (n : Node) (accepts : String → Bool) (resolver : Resolver) : TreeReport :=
  let sites := n.sites.zipIdx
  let first := n.sites.find? Site.isRead
  { constants := sites.filterMap fun (s, i) =>
      if s.node.named && (resolver.constant s).value then some i else none
    candidates := sites.filterMap fun (s, i) =>
      if s.isCandidate accepts then some (i, (resolver.hoistable s).value) else none
    attributes := sites.filterMap fun (s, i) =>
      if s.kind = Kind.markupAttribute then some (i, s.node.attributeName?) else none
    references := sites.filterMap fun (s, i) =>
      if s.kind = Kind.identifier || s.kind = Kind.shorthandProperty then
        some (i, s.text, (resolver.resolve s).value)
      else none
    functions := sites.filterMap fun (s, i) =>
      if s.node.isFunction then some (functionReport resolver first s i) else none }

end Node

/-- The names that a node binds, read in each of the possible ways. -/
structure BindingReport where
  index : Nat
  kind : Kind
  pattern : List String
  parameters : List String
  imports : List String
  declarators : List String
  declared : List String
  deriving Repr

/-- The names bound by every node that binds any. -/
def Node.bindingReports (n : Node) : List BindingReport :=
  n.walk.zipIdx.filterMap fun (m, index) =>
    let r : BindingReport :=
      { index, kind := m.kind
        pattern := m.patternNames
        parameters := m.parameterNames
        imports := m.importNames
        declarators := m.declaratorNames
        declared := sortedNames m.declaredNames }
    if r.pattern.isEmpty && r.parameters.isEmpty && r.imports.isEmpty && r.declarators.isEmpty
        && r.declared.isEmpty then none
    else some r

end AttrHoist
