import AttrHoist.Scope.Names
import AttrHoist.Tree.Site
import AttrHoist.Traced

/-!
Where a name is declared. The lexical resolver reads the tree from the inside out: parameters and
local declarations of enclosing functions and blocks come before the declarations of the module. A
host that has a symbol table of its own can use that instead, and any other way to answer fits too.
-/

namespace AttrHoist

namespace Node

/-- What a name refers to as far as one enclosing function decides it. -/
def functionBinding? (f : Node) (name : String) : Option Declaration :=
  if name ∈ f.parameterNames then some .parameter
  else if f.kind ∈ Kind.functionExpressions ∧ f.isCalled name then some .localVariable
  else if (f.child? "body").any (name ∈ ·.declaredNames) then some .localVariable
  else none

/-- Whether a declaration is introduced by the keyword for constants. -/
def isConst (n : Node) : Bool :=
  n.children.any fun c => !c.named && c.kind == Kind.constKeyword

/-- What a name refers to as far as one statement of the module decides it. -/
def statementBinding? (statement : Node) (name : String) : Option Declaration :=
  if statement.kind = Kind.importStatement then
    if name ∈ statement.importNames then some .importBinding else none
  else if statement.kind = Kind.lexicalDeclaration then
    if name ∈ statement.declaratorNames then
      some (if statement.isConst then .moduleConstant else .other)
    else none
  else if statement.kind ∈ Kind.namedDeclarations then
    if statement.isCalled name then some .other else none
  else if name ∈ statement.declaredNames then some .other
  else none

/-- The declaration inside an export, or the statement itself; an export without a declaration gives
nothing. -/
def exported? (statement : Node) : Option Node :=
  if statement.kind = Kind.exportStatement then statement.child? "declaration" else some statement

/-- What a name refers to in a module: the first statement that binds it decides. -/
def moduleBinding (program : Node) (name : String) : Declaration :=
  ((program.namedChildren.filterMap exported?).findSome? (·.statementBinding? name)).getD .unresolved

/-- What a name refers to as far as one enclosing node decides it; a program always does. -/
def scopeBinding? (scope : Node) (name : String) : Option Declaration :=
  if scope.isFunction then scope.functionBinding? name
  else if scope.kind ∈ Kind.blocks then
    if name ∈ scope.declaredNames then some .localVariable else none
  else if scope.kind = Kind.program then some (scope.moduleBinding name)
  else none

end Node

/-- The declaration that the identifier at a site refers to, read off what encloses it. -/
def Site.lexicalDeclaration (s : Site) : Traced Declaration :=
  match s.ancestors.findSome? (·.node.scopeBinding? s.text) with
  | some d => pure d
  | none => ⟨.unresolved, [.noProgram s.text]⟩

/-- A way to find out what an identifier refers to: an answer for every site. The two ways below come
with the library; a host may bring one of its own. -/
structure Resolver where
  /-- The declaration that the identifier at a site refers to. -/
  resolve : Site → Traced Declaration

namespace Resolver

/-- Reads the tree around the identifier. -/
def lexical : Resolver := ⟨Site.lexicalDeclaration⟩

/-- Looks the name up in a table; the first entry for a name counts. -/
def table (entries : List (String × Declaration)) : Resolver :=
  ⟨fun s => pure ((entries.lookup s.text).getD .unresolved)⟩

@[simp] theorem resolve_lexical (s : Site) : lexical.resolve s = s.lexicalDeclaration := rfl

@[simp] theorem resolve_table (entries : List (String × Declaration)) (s : Site) :
    (table entries).resolve s = pure ((entries.lookup s.text).getD .unresolved) := rfl

/-- The ways that come with the library. -/
inductive BuiltIn : Resolver → Prop
  | lexical : BuiltIn Resolver.lexical
  | table (entries : List (String × Declaration)) : BuiltIn (Resolver.table entries)

end Resolver

end AttrHoist
