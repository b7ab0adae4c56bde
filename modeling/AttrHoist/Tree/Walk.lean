import AttrHoist.Tree.Node

/-!
Traversal with an explicit list of pending items. `visit` takes the first pending item, reports it
and, if told to enter it, puts what lies below in front of the rest; items come out before what is
below them and from left to right. Every search through a tree is one `visit`.
-/

namespace AttrHoist

/-- The sum of the weights of a list. -/
def total {α : Type} (weight : α → Nat) : List α → Nat
  | [] => 0
  | a :: as => weight a + total weight as

theorem total_append {α : Type} (weight : α → Nat) (as bs : List α) :
    total weight (as ++ bs) = total weight as + total weight bs := by
  induction as with
  | nil => simp [total]
  | cons a as ih => simp only [List.cons_append, total, ih, Nat.add_assoc]

/-- Something with an ordered list of things below it that weigh less together. -/
class Branching (α : Type) where
  below : α → List α
  weight : α → Nat
  total_below : ∀ a, total weight (below a) < weight a

export Branching (below weight)

section
variable {α : Type} [Branching α]

/-- The items met when working through `pending` from the front, going below those that `enter`
admits. -/
def visit (enter : α → Bool) : List α → List α
  | [] => []
  | a :: pending => a :: visit enter (if enter a then below a ++ pending else pending)
termination_by pending => total weight pending
decreasing_by
  have h := Branching.total_below a
  split
  · rw [total_append, total]; omega
  · rw [total]; omega

/-- An item and everything below it. -/
def preorder (a : α) : List α :=
  visit (fun _ => true) [a]

end

namespace Node

theorem sizeAll_eq_total (cs : List Node) : sizeAll cs = total size cs := by
  induction cs with
  | nil => rfl
  | cons c cs ih => rw [sizeAll, total, ih]

theorem total_children_lt_size (n : Node) : total size n.children < n.size := by
  cases n with
  | mk h cs => rw [size, sizeAll_eq_total]; exact Nat.lt_succ_self _

instance : Branching Node where
  below := children
  weight := size
  total_below := total_children_lt_size

/-- A tree and all its subtrees, each before its own subtrees. -/
def walk (n : Node) : List Node :=
  preorder n

end Node

end AttrHoist
