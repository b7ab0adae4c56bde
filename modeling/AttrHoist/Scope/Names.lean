import AttrHoist.Tree.Walk

/-!
Names that syntax brings into being: those bound by patterns and parameters, by imports, and by
declarations inside a piece of code. Lists keep the order of the source and may repeat a name.
-/

namespace AttrHoist.Node

/-- The parts of a pattern that bind names on its behalf. -/
def patternParts (n : Node) : List Node :=
  if n.kind ∈ Kind.defaultPatterns then (n.child? "left").toList
  else if n.kind = Kind.pairPattern then (n.child? "value").toList
  else if n.kind ∈ Kind.parameterWrappers then (n.child? "pattern").toList
  else if n.kind ∈ Kind.compositePatterns then n.namedChildren
  else []

theorem mem_of_patternParts {p n : Node} (h : p ∈ n.patternParts) : p ∈ n.children := by
  unfold patternParts at h
  repeat' split at h
  · exact mem_of_child? (Option.mem_toList.1 h)
  · exact mem_of_child? (Option.mem_toList.1 h)
  · exact mem_of_child? (Option.mem_toList.1 h)
  · exact mem_of_namedChildren h
  · cases h

/-- Whether a node is a pattern that binds its own text. -/
def isBinder (n : Node) : Bool :=
  n.kind == Kind.identifier || n.kind == Kind.shorthandPattern

/-- The names bound by a pattern, at any depth. -/
def patternNames (n : Node) : List String :=
  if n.isBinder then [n.text]
  else n.patternParts.attach.flatMap fun ⟨p, _⟩ => patternNames p
termination_by n.size
decreasing_by exact size_lt_of_mem (mem_of_patternParts ‹_›)

/-- The names bound by the pattern in the given role. -/
def namesIn (n : Node) (field : String) : List String :=
  (n.child? field).toList.flatMap patternNames

/-- The parameter list of a function, or its lone bare parameter. -/
def parameters? (n : Node) : Option Node :=
  (n.child? "parameters").or (n.child? "parameter")

/-- The names of a function's parameters. -/
def parameterNames (n : Node) : List String :=
  n.parameters?.toList.flatMap patternNames

/-- The local name of one entry of a braced import list: the alias if it has one. -/
def specifierName? (n : Node) : Option String :=
  ((n.child? "alias").or (n.child? "name")).map text

/-- The local names bound by one part of an import clause. -/
def importPartNames (n : Node) : List String :=
  if n.kind = Kind.identifier then [n.text]
  else if n.kind = Kind.namespaceImport then
    (n.namedChildren.filter (·.kind == Kind.identifier)).map text
  else if n.kind = Kind.namedImports then
    (n.namedChildren.filter (·.kind == Kind.importSpecifier)).filterMap specifierName?
  else []

/-- The local names bound by an import statement. -/
def importNames (n : Node) : List String :=
  (n.namedChildren.filter (·.kind == Kind.importClause)).flatMap fun clause =>
    clause.namedChildren.flatMap importPartNames

/-- The names bound by the declarators of a declaration. -/
def declaratorNames (n : Node) : List String :=
  (n.namedChildren.filter (·.kind == Kind.declarator)).flatMap (·.namesIn "name")

/-- The names that a node declares by itself, whatever its children declare. -/
def ownNames (n : Node) : List String :=
  if n.kind = Kind.declarator then n.namesIn "name"
  else if n.kind ∈ Kind.namedDeclarations then (n.child? "name").toList.map text
  else if n.kind = Kind.catchClause then n.namesIn "parameter"
  else if n.kind = Kind.forIn ∧ (n.child? "kind").isSome then n.namesIn "left"
  else []

def isFunction (n : Node) : Bool := n.kind ∈ Kind.functions

/-- The names declared in a piece of code. Functions are not entered: one contributes its own
declared name, and what it declares inside stays with it. -/
def declaredNames (n : Node) : List String :=
  (visit (fun m : Node => !m.isFunction) [n]).flatMap ownNames

/-- Whether a function, or a class, has the given name of its own. -/
def isCalled (n : Node) (name : String) : Bool :=
  (n.child? "name").any (·.text == name)

end AttrHoist.Node
