import AttrHoist.Tree.Node

/-!
From the spans that a grammar reports to a tree that owns its text. Every byte of the source ends up
in exactly one node: what lies before a node in its leading text, what is left at its end in its
text or, after children, in its trailing text. A position that has been passed is never taken again,
so overlapping spans do no harm.
-/

namespace AttrHoist

/-- A node as a grammar reports it, with byte positions in the source. -/
inductive Concrete where
  | mk (kind : Kind) (start stop : Nat) (named : Bool) (field : Option String) (children : List Concrete)
  deriving Repr

/-- The text of the bytes from `start` up to `stop`, as far as there are any; none if it begins or
ends inside a character. -/
def slice? (source : ByteArray) (start stop : Nat) : Option String :=
  if stop ≤ start then some "" else String.fromUTF8? (source.extract start stop)

namespace Concrete

def field : Concrete → Option String
  | mk _ _ _ _ f _ => f

mutual
/-- The tree for a span in the given role, when the source is used up to `pos`, and how far it is
used up then. -/
def build (source : ByteArray) (pos : Nat) (role : Option String) : Concrete → Option (Node × Nat)
  | mk kind start stop named _ children => do
    let leading ← slice? source pos start
    let (nodes, pos) ← buildAll source (max pos start) children
    let own ← slice? source pos stop
    let head : Head := { kind, named, field := role, leading }
    let head := if nodes.isEmpty then { head with text := own } else { head with trailing := own }
    return (.mk head nodes, max pos stop)

/-- The trees for consecutive spans, each in its own role. -/
def buildAll (source : ByteArray) (pos : Nat) : List Concrete → Option (List Node × Nat)
  | [] => some ([], pos)
  | c :: cs => do
    let (node, pos) ← build source pos c.field c
    let (nodes, pos) ← buildAll source pos cs
    return (node :: nodes, pos)
end

/-- The tree of a whole source. The root has no role and takes what is left after it. -/
def toNode? (root : Concrete) (source : String) : Option Node := do
  let bytes := source.toUTF8
  let (node, pos) ← root.build bytes 0 none
  let rest ← slice? bytes pos bytes.size
  return node.mapHead fun h => { h with trailing := h.trailing ++ rest }

end Concrete

end AttrHoist
