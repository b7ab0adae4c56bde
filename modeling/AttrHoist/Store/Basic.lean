import AttrHoist.Tree.Node

/-!
A store of nodes that are shared and can be changed. A node is known by its number in order of
creation; it lists its children and knows the node it was last attached to. Attaching a node again
moves its parent link but leaves it among the children of the earlier parent.
-/

namespace AttrHoist

/-- What a store keeps of a node. -/
structure Cell where
  head : Head := default
  children : List Nat := []
  parent : Option Nat := none
  deriving Repr, Inhabited

/-- Nodes in order of creation. -/
structure Store where
  cells : Array Cell := #[]
  deriving Repr, Inhabited

namespace Store

/-- The number of nodes, which is also the number that the next one gets. -/
def size (s : Store) : Nat := s.cells.size

/-- What is kept of a node; an empty cell for a number that is not in use. -/
def cell (s : Store) (r : Nat) : Cell := s.cells.getD r {}

/-- The store with a new node at the end, to which the given children are attached. -/
def create (s : Store) (head : Head) (children : List Nat) : Store :=
  let attached := s.cells.mapIdx fun r c =>
    if r ∈ children then { c with parent := some s.size } else c
  ⟨attached.push { head, children }⟩

/-- Changes the head of a node. -/
def setHead (s : Store) (r : Nat) (f : Head → Head) : Store :=
  ⟨s.cells.modify r fun c => { c with head := f c.head }⟩

/-- The tree below a node as a value. A child is created before its parent, so only smaller numbers
are followed. -/
def read (s : Store) (r : Nat) : Node :=
  .mk (s.cell r).head (((s.cell r).children.filter (· < r)).attach.map fun ⟨c, _⟩ => s.read c)
termination_by r
decreasing_by
  have h := ‹c ∈ _›
  simpa using (List.mem_filter.1 h).2

mutual
/-- Creates a detached copy of a tree, children first. Gives the store and the number of the root. -/
def insert (s : Store) : Node → Store × Nat
  | .mk head children =>
    let (s, refs) := s.insertAll children
    (s.create head refs, s.size)

/-- Creates detached copies of several trees. -/
def insertAll (s : Store) : List Node → Store × List Nat
  | [] => (s, [])
  | n :: ns =>
    let (s, r) := s.insert n
    let (s, rs) := s.insertAll ns
    (s, r :: rs)
end

/-- A copy of the tree below a node, detached, with a changed head. -/
def clone (s : Store) (r : Nat) (f : Head → Head) : Store × Nat :=
  s.insert ((s.read r).mapHead f)

/-- The node itself if it has never been attached, or else a copy. -/
def detached (s : Store) (r : Nat) : Store × Nat :=
  if (s.cell r).parent.isNone then (s, r) else s.clone r id

/-- Each of several nodes or a copy of it, decided before any of them is attached. -/
def detachedAll (s : Store) : List Nat → Store × List Nat
  | [] => (s, [])
  | r :: rs =>
    let (s, r') := s.detached r
    let (s, rs') := s.detachedAll rs
    (s, r' :: rs')

/-- A copy of a node with other children; those that are attached elsewhere are copied. -/
def withChildren (s : Store) (r : Nat) (children : List Nat) : Store × Nat :=
  let (s', refs) := s.detachedAll children
  (s'.create (s.cell r).head refs, s'.size)

/-- What a node was last attached to, what that was, and so on. A parent is created after its
children. -/
def ancestors (s : Store) (r : Nat) : List Nat :=
  match (s.cell r).parent with
  | some p => if r < p ∧ p < s.size then p :: s.ancestors p else []
  | none => []
termination_by s.size - r
decreasing_by omega

/-- The node below `r` that is reached by positions among children. -/
def descendant? (s : Store) (r : Nat) : List Nat → Option Nat
  | [] => some r
  | i :: path => (s.cell r).children[i]?.bind fun c => s.descendant? c path

/-- The children of a node in a role. -/
def childrenIn (s : Store) (r : Nat) (field : String) : List Nat :=
  (s.cell r).children.filter fun c => (s.cell c).head.field == some field

end Store

end AttrHoist
