import AttrHoist.Tree.Node

/-! Printing a tree back as source text. -/

namespace AttrHoist.Node

mutual
/-- The source text of a tree, with the text in front of it. -/
def render : Node → String
  | mk h [] => h.leading ++ h.text ++ h.trailing
  | mk h (c :: cs) => h.leading ++ (c.render ++ renderAll cs) ++ h.trailing

/-- The source text of consecutive trees. -/
def renderAll : List Node → String
  | [] => ""
  | c :: cs => c.render ++ renderAll cs
end

/-- The source text of a tree without the text in front of it. -/
def sourceText (n : Node) : String :=
  String.ofList (n.render.toList.drop n.leading.length)

end AttrHoist.Node
