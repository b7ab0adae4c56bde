import AttrHoist.Tree.Concrete

/-!
Syntax trees as text, the form in which a separate parser hands them over. The first line is `ok`,
or `error` if the source has syntax errors. Then every node has a line, each before its children,
with six things between single blanks: its depth, its start and its end in bytes, `1` if it is named
and `0` if not, its role or a dash, and its kind.
-/

namespace AttrHoist

/-- One line of an outline: the depth, and the node but for its children. -/
structure OutlineLine where
  depth : Nat
  node : List Concrete → Concrete

namespace Outline

/-- Reads the line of a node. The kind comes last and may hold blanks. -/
def line? (text : String) : Option OutlineLine :=
  match text.splitOn " " with
  | depth :: start :: stop :: named :: role :: kind => do
    let field := if role = "-" then none else some role
    let (start, stop) := (← start.toNat?, ← stop.toNat?)
    return ⟨← depth.toNat?, .mk (String.intercalate " " kind) start stop (named == "1") field⟩
  | _ => none

/-- Puts a line in front of the trees read after it; those that lie deeper become its children. -/
def attach (l : OutlineLine) (after : List (Nat × Concrete)) : List (Nat × Concrete) :=
  let (below, rest) := after.span fun t => l.depth < t.1
  (l.depth, l.node (below.map (·.2))) :: rest

/-- The tree of an outline and whether its source has errors. -/
def parse? (text : String) : Option (Concrete × Bool) := do
  match text.splitOn "\n" with
  | status :: lines =>
    let hasError ← if status = "ok" then some false else if status = "error" then some true else none
    let nodes ← (lines.filter (· ≠ "")).mapM line?
    match nodes.foldr attach [] with
    | [(_, root)] => return (root, hasError)
    | _ => none
  | [] => none

end Outline

end AttrHoist
