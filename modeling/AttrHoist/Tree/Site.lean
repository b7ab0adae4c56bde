import AttrHoist.Tree.Walk

/-!
Places in a tree. A `Site` is a subtree together with the way from the root down to it, so that
questions about what encloses a piece of syntax have an answer without links from children to
parents.
-/

namespace AttrHoist

/-- One step down: the node left behind and the position of the child that was taken. -/
structure Crumb where
  parent : Node
  index : Nat

/-- A subtree and the steps that lead to it, the last step first. -/
structure Site where
  node : Node
  trail : List Crumb

namespace Site

/-- The site of a whole tree. -/
def root (n : Node) : Site := ⟨n, []⟩

def kind (s : Site) : Kind := s.node.kind
def text (s : Site) : String := s.node.text

/-- The positions taken on the way, the last first. Two sites of one tree are the same place just
when their addresses are the same. -/
def address (s : Site) : List Nat := s.trail.map (·.index)

/-- Whether two ways down take the same steps. -/
def sameSteps : List Crumb → List Crumb → Bool
  | [], [] => true
  | c :: cs, d :: ds => c.index == d.index && sameSteps cs ds
  | _, _ => false

/-- Whether two sites of one tree are the same place. -/
def samePlace (s t : Site) : Bool := sameSteps s.trail t.trail

theorem sameSteps_iff (cs ds : List Crumb) :
    sameSteps cs ds ↔ cs.map (·.index) = ds.map (·.index) := by
  induction cs generalizing ds with
  | nil => cases ds <;> simp [sameSteps]
  | cons c cs ih => cases ds <;> simp [sameSteps, ih]

theorem samePlace_iff {s t : Site} : s.samePlace t ↔ s.address = t.address :=
  sameSteps_iff s.trail t.trail

/-- The sites passed on a way down, the last first. -/
def alongTrail : List Crumb → List Site
  | [] => []
  | c :: cs => ⟨c.parent, cs⟩ :: alongTrail cs

/-- What encloses a site, from the inside out. -/
def ancestors (s : Site) : List Site := alongTrail s.trail

def parent? (s : Site) : Option Site := s.ancestors.head?

/-- The site of one child. -/
def descend (s : Site) (child : Node) (index : Nat) : Site := ⟨child, ⟨s.node, index⟩ :: s.trail⟩

def children (s : Site) : List Site :=
  s.node.children.zipIdx.map fun p => s.descend p.1 p.2

/-- The children that stand for a form of the grammar, comments apart. -/
def namedChildren (s : Site) : List Site :=
  s.children.filter fun c => c.node.named && c.kind != Kind.comment

/-- The first child in the given role. -/
def child? (s : Site) (field : String) : Option Site :=
  s.children.find? (·.node.field == some field)

theorem map_node_children (s : Site) : s.children.map node = s.node.children := by
  simp [children, descend, List.map_map, Function.comp_def]

theorem node_mem_children {c s : Site} (h : c ∈ s.children) : c.node ∈ s.node.children := by
  rw [← map_node_children]; exact List.mem_map_of_mem h

theorem size_lt_of_mem {c s : Site} (h : c ∈ s.children) : c.node.size < s.node.size :=
  Node.size_lt_of_mem (node_mem_children h)

theorem mem_of_namedChildren {c s : Site} (h : c ∈ s.namedChildren) : c ∈ s.children :=
  (List.mem_filter.1 h).1

theorem mem_of_child? {c s : Site} {field : String} (h : s.child? field = some c) : c ∈ s.children :=
  List.mem_of_find?_eq_some h

theorem total_node (ss : List Site) : total (·.node.size) ss = total Node.size (ss.map node) := by
  induction ss with
  | nil => rfl
  | cons s ss ih => rw [total, List.map_cons, total, ih]

theorem total_children_lt_size (s : Site) : total (·.node.size) s.children < s.node.size := by
  rw [total_node, map_node_children]; exact Node.total_children_lt_size s.node

instance : Branching Site where
  below := children
  weight s := s.node.size
  total_below := total_children_lt_size

/-- A site and all sites below it, each before those below it. -/
def walk (s : Site) : List Site :=
  preorder s

end Site

/-- Every place of a tree in reading order, the root first. -/
def Node.sites (n : Node) : List Site :=
  (Site.root n).walk

end AttrHoist
