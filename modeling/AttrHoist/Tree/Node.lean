import AttrHoist.Tree.Kind

/-!
Syntax trees that keep every character of their source. A node holds the text in front of it and, if
it has children, the text after the last of them, so that printing an untouched tree gives its
source back.
-/

namespace AttrHoist

/-- What a node carries besides its children. Only the text of a leaf is printed. -/
structure Head where
  kind : Kind
  text : String := ""
  /-- The role of the node in its parent, if the grammar gives it one. -/
  field : Option String := none
  /-- Whether the node stands for a form of the grammar; keywords and punctuation do not. -/
  named : Bool := true
  leading : String := ""
  trailing : String := ""
  deriving DecidableEq, Repr, Inhabited

/-- A syntax tree. -/
inductive Node where
  | mk (head : Head) (children : List Node)
  deriving Repr, Inhabited

namespace Node

def head : Node → Head
  | mk h _ => h

def children : Node → List Node
  | mk _ cs => cs

@[simp] theorem head_mk (h : Head) (cs : List Node) : (mk h cs).head = h := rfl

@[simp] theorem children_mk (h : Head) (cs : List Node) : (mk h cs).children = cs := rfl

theorem eta (n : Node) : mk n.head n.children = n := by cases n; rfl

mutual
/-- Equality of trees is decided from the top down. -/
def decEq : (a b : Node) → Decidable (a = b)
  | mk h cs, mk h' cs' =>
    if hh : h = h' then
      match decEqAll cs cs' with
      | isTrue hc => isTrue (by rw [hh, hc])
      | isFalse hc => isFalse fun e => hc (Node.mk.inj e).2
    else isFalse fun e => hh (Node.mk.inj e).1

/-- Equality of several trees. -/
def decEqAll : (as bs : List Node) → Decidable (as = bs)
  | [], [] => isTrue rfl
  | [], _ :: _ => isFalse nofun
  | _ :: _, [] => isFalse nofun
  | a :: as, b :: bs =>
    match decEq a b, decEqAll as bs with
    | isTrue ha, isTrue has => isTrue (by rw [ha, has])
    | isFalse ha, _ => isFalse fun e => ha (List.cons.inj e).1
    | _, isFalse has => isFalse fun e => has (List.cons.inj e).2
end

instance : DecidableEq Node := decEq

def kind (n : Node) : Kind := n.head.kind
def text (n : Node) : String := n.head.text
def field (n : Node) : Option String := n.head.field
def named (n : Node) : Bool := n.head.named
def leading (n : Node) : String := n.head.leading
def trailing (n : Node) : String := n.head.trailing

/-- A keyword or a punctuation mark. -/
def token (text : String) (leading : String := "") : Node :=
  mk { kind := text, text, named := false, leading } []

/-- A reference to a name. -/
def identifier (name : String) (leading : String := "") (field : Option String := none) : Node :=
  mk { kind := Kind.identifier, text := name, leading, field } []

/-- The same tree with another head. -/
def mapHead (f : Head → Head) : Node → Node
  | mk h cs => mk (f h) cs

/-- The same tree with other text in front. -/
def withLeading (leading : String) (n : Node) : Node :=
  n.mapHead fun h => { h with leading }

def isLeaf (n : Node) : Bool := n.children.isEmpty

/-- The children that stand for a form of the grammar, comments apart. -/
def namedChildren (n : Node) : List Node :=
  n.children.filter fun c => c.named && c.kind != Kind.comment

/-- The first child in the given role. -/
def child? (n : Node) (field : String) : Option Node :=
  n.children.find? (·.field == some field)

/-- All children in the given role. -/
def childrenIn (n : Node) (field : String) : List Node :=
  n.children.filter (·.field == some field)

mutual
/-- The number of nodes of a tree. -/
def size : Node → Nat
  | mk _ cs => sizeAll cs + 1

/-- The number of nodes of several trees. -/
def sizeAll : List Node → Nat
  | [] => 0
  | c :: cs => c.size + sizeAll cs
end

theorem size_le_sizeAll {c : Node} {cs : List Node} (h : c ∈ cs) : c.size ≤ sizeAll cs := by
  induction cs with
  | nil => cases h
  | cons d cs ih =>
    rcases List.mem_cons.1 h with rfl | h
    · exact Nat.le_add_right _ _
    · exact Nat.le_trans (ih h) (Nat.le_add_left _ _)

theorem size_lt_of_mem {c n : Node} (h : c ∈ n.children) : c.size < n.size := by
  cases n; exact Nat.lt_succ_of_le (size_le_sizeAll h)

theorem mem_of_namedChildren {c n : Node} (h : c ∈ n.namedChildren) : c ∈ n.children :=
  (List.mem_filter.1 h).1

theorem mem_of_child? {c n : Node} {field : String} (h : n.child? field = some c) :
    c ∈ n.children :=
  List.mem_of_find?_eq_some h

end Node

end AttrHoist
