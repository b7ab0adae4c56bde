import AttrHoist.Tree.Site

/-!
Values in attribute position. A value qualifies when it is the expression in the braces of an
attribute of a component invocation, or a branch of a conditional that is; the name of the attribute
must be accepted.
-/

namespace AttrHoist

/-- The written name of an attribute, a namespace included; an attribute without children has none. -/
def Node.attributeName? (n : Node) : Option String :=
  n.children.head?.map fun name =>
    if name.kind = Kind.namespaceName then String.join (name.children.map Node.text) else name.text

namespace Site

/-- Whether a site is the value of an attribute with an accepted name on a component invocation. -/
def isAttributeValue (accepts : String → Bool) (s : Site) : Bool :=
  match s.ancestors with
  | braces :: attr :: element :: _ =>
    braces.kind == Kind.markupContainer && attr.kind == Kind.markupAttribute &&
      element.kind ∈ Kind.invocations && attr.node.attributeName?.any accepts
  | _ => false

/-- Whether a site is a branch of a conditional that is such a value. -/
def isBranchOfValue (accepts : String → Bool) (s : Site) : Bool :=
  s.parent?.any fun p =>
    p.kind == Kind.ternary &&
      (s.node.field == some "consequence" || s.node.field == some "alternative") &&
      p.isAttributeValue accepts

/-- Whether a site is considered for hoisting. Plain references have nothing to gain. -/
def isCandidate (accepts : String → Bool) (s : Site) : Bool :=
  s.node.named && s.kind != Kind.identifier && s.kind != Kind.comment &&
    (s.isAttributeValue accepts || s.isBranchOfValue accepts)

end Site

end AttrHoist
