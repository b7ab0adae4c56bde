/-! What a name can refer to. -/

namespace AttrHoist

/-- The sort of declaration that a name refers to. -/
inductive Declaration where
  | importBinding
  | moduleConstant
  | parameter
  | localVariable
  | other
  | unresolved
  deriving DecidableEq, Repr, Inhabited

namespace Declaration

/-- The word for a sort of declaration. -/
def word : Declaration → String
  | importBinding => "import_binding"
  | moduleConstant => "module_scope_constant"
  | parameter => "parameter"
  | localVariable => "local_variable"
  | other => "other"
  | unresolved => "unresolved"

def all : List Declaration :=
  [importBinding, moduleConstant, parameter, localVariable, other, unresolved]

/-- The sort of declaration that a word stands for. -/
def ofWord? (w : String) : Option Declaration :=
  all.find? (·.word == w)

/-- Whether what is declared keeps one value while the module lives. -/
def isFixed : Declaration → Bool
  | importBinding | moduleConstant => true
  | _ => false

end Declaration

end AttrHoist
