import AttrHoist.Tree.Site

/-!
# Traversals by the tree

`visit` works through a list of pending items. Here its result is described by the tree: an item, then what
lies below it if it is entered, one sibling after the other.
-/

namespace AttrHoist

/-! ## Visits -/

section
variable {α : Type} [Branching α]

theorem visit_nil (enter : α → Bool) : visit enter [] = [] := by rw [visit]

theorem visit_append (enter : α → Bool) (as bs : List α) :
    visit enter (as ++ bs) = visit enter as ++ visit enter bs := by
  fun_induction visit enter as with
  | case1 => rfl
  | case2 a pending ih =>
      rw [List.cons_append, visit, List.cons_append]
      by_cases he : enter a = true
      · simp only [he, ↓reduceIte, ↓reduceDIte, List.append_assoc] at ih ⊢
        rw [ih]
      · simp only [he, Bool.false_eq_true, ↓reduceIte, ↓reduceDIte] at ih ⊢
        rw [ih]

theorem visit_singleton (enter : α → Bool) (a : α) :
    visit enter [a] = a :: if enter a then visit enter (below a) else [] := by
  rw [visit, List.append_nil]
  by_cases he : enter a = true
  · simp only [he, ↓reduceIte]
  · simp only [he, Bool.false_eq_true, ↓reduceIte, visit_nil]

theorem visit_cons (enter : α → Bool) (a : α) (as : List α) :
    visit enter (a :: as) = visit enter [a] ++ visit enter as :=
  visit_append enter [a] as

/-- Pending items are worked through independently of each other. -/
theorem visit_eq_flatMap (enter : α → Bool) (as : List α) :
    visit enter as = as.flatMap fun a => visit enter [a] := by
  induction as with
  | nil => exact visit_nil enter
  | cons a as ih => rw [visit_cons, ih, List.flatMap_cons]

theorem preorder_eq (a : α) : preorder a = a :: (below a).flatMap preorder := by
  rw [preorder, visit_singleton, if_pos rfl, visit_eq_flatMap]
  rfl

end

/-! ## Walks -/

theorem Node.walk_eq (n : Node) : n.walk = n :: n.children.flatMap walk :=
  preorder_eq n

theorem Node.mem_walk {n m : Node} : m ∈ n.walk ↔ m = n ∨ ∃ c ∈ n.children, m ∈ c.walk := by
  rw [walk_eq, List.mem_cons, List.mem_flatMap]

theorem Node.self_mem_walk (n : Node) : n ∈ n.walk := mem_walk.mpr (Or.inl rfl)

theorem Node.mem_walk_of_child {n c m : Node} (hc : c ∈ n.children) (hm : m ∈ c.walk) : m ∈ n.walk :=
  mem_walk.mpr (Or.inr ⟨c, hc, hm⟩)

/-- What holds of a node whenever it holds of its children holds of every node. -/
theorem Node.induction_on {motive : Node → Prop} (step : ∀ n, (∀ c ∈ n.children, motive c) → motive n)
    (n : Node) : motive n := by
  induction h : n.size using Nat.strongRecOn generalizing n with
  | ind size ih =>
      apply step
      intro c hc
      exact ih c.size (h ▸ size_lt_of_mem hc) c rfl

namespace Site

theorem walk_eq (s : Site) : s.walk = s :: s.children.flatMap walk :=
  preorder_eq s

theorem mem_walk {s w : Site} : w ∈ s.walk ↔ w = s ∨ ∃ c ∈ s.children, w ∈ c.walk := by
  rw [walk_eq, List.mem_cons, List.mem_flatMap]

theorem self_mem_walk (s : Site) : s ∈ s.walk := mem_walk.mpr (Or.inl rfl)

theorem mem_walk_of_child {s c w : Site} (hc : c ∈ s.children) (hw : w ∈ c.walk) : w ∈ s.walk :=
  mem_walk.mpr (Or.inr ⟨c, hc, hw⟩)

theorem child_mem_walk {s c : Site} (hc : c ∈ s.children) : c ∈ s.walk := mem_walk_of_child hc (self_mem_walk c)

/-- What holds of a site whenever it holds of its children holds of every site. -/
theorem induction_on {motive : Site → Prop} (step : ∀ s, (∀ c ∈ s.children, motive c) → motive s)
    (s : Site) : motive s := by
  obtain ⟨n, trail⟩ := s
  induction n using Node.induction_on generalizing trail with
  | step n ih =>
      apply step
      rintro ⟨c, rest⟩ hc
      exact ih c (node_mem_children hc) rest

theorem map_node_visit (enter : Node → Bool) (ss : List Site) :
    (visit (fun s : Site => enter s.node) ss).map node = visit enter (ss.map node) := by
  fun_induction visit (fun s : Site => enter s.node) ss with
  | case1 => exact (visit_nil enter).symm
  | case2 s pending ih =>
      rw [List.map_cons, List.map_cons, visit]
      by_cases he : enter s.node = true
      · simp only [he, ↓reduceIte, ↓reduceDIte, List.map_append, below, map_node_children] at ih ⊢
        rw [ih]
      · simp only [he, Bool.false_eq_true, ↓reduceIte, ↓reduceDIte] at ih ⊢
        rw [ih]

theorem map_node_walk (s : Site) : s.walk.map node = s.node.walk := map_node_visit (fun _ => true) [s]

theorem node_mem_walk {s w : Site} (h : w ∈ s.walk) : w.node ∈ s.node.walk := by
  induction s using induction_on with
  | step s ih =>
      rcases mem_walk.mp h with rfl | ⟨c, hc, hw⟩
      · exact Node.self_mem_walk _
      · exact Node.mem_walk_of_child (node_mem_children hc) (ih c hc hw)

end Site

end AttrHoist
