import AttrHoist.Proofs.Lemmas.Pieces
import AttrHoist.Proofs.Lemmas.Sites
import AttrHoist.Proofs.Lemmas.Stacks
import Mathlib.Data.List.Count

/-!
# The order of a walk

A walk meets every node of a tree once, in the order of reading: a node before what lies below it, and what lies below
one child before what lies below the next. The texts of the leaves come in the order in which they are printed.
-/

namespace AttrHoist

theorem join_flatMap {α : Type} (f : α → List String) (as : List α) :
    String.join (as.flatMap f) = String.join (as.map fun a => String.join (f a)) := by
  induction as with
  | nil => rfl
  | cons a as ih => rw [List.flatMap_cons, String.join_append, ih, List.map_cons, String.join_cons]

/-! ## Places -/

namespace Site

/-- The positions taken on the way to a site, the first one first. -/
def place (s : Site) : List Nat := s.address.reverse

theorem place_of_follow {s w : Site} {path : List Nat} (h : s.follow path = some w) : w.place = s.place ++ path := by
  rw [place, address_of_follow h, List.reverse_append, List.reverse_reverse, place]

theorem follow_place {t : Node} {s : Site} (h : s ∈ t.sites) : (root t).follow s.place = some s := by
  obtain ⟨path, hp⟩ := follow_of_mem_walk h
  rw [show s.place = path from place_of_follow hp, hp]

theorem node_follow_place {t : Node} {s : Site} (h : s ∈ t.sites) : t.follow s.place = some s.node := by
  rw [show t = (root t).node from rfl, ← map_node_follow, follow_place h, Option.map_some]

theorem place_of_below {s c w : Site} {i : Nat} (hc : s.children[i]? = some c) (hw : w ∈ c.walk) :
    ∃ path, w.place = s.place ++ i :: path := by
  obtain ⟨path, hp⟩ := follow_of_mem_walk hw
  exact ⟨path, place_of_follow (follow_cons.mpr ⟨c, hc, hp⟩)⟩

/-- A walk comes to places in the order of a dictionary. -/
theorem pairwise_walk (s : Site) : s.walk.Pairwise fun w v => w.place < v.place := by
  induction s using induction_on with
  | step s ih =>
      rw [walk_eq, List.pairwise_cons, List.pairwise_flatMap, List.pairwise_iff_getElem]
      refine ⟨fun w hw => ?_, ih, fun i j hi hj hij w hw v hv => ?_⟩
      · obtain ⟨c, hc, hw⟩ := List.mem_flatMap.mp hw
        obtain ⟨i, hi⟩ := List.mem_iff_getElem?.mp hc
        obtain ⟨path, hp⟩ := place_of_below hi hw
        have hlt : s.place ++ [] < s.place ++ i :: path := List.append_left_lt (List.nil_lt_cons i path)
        rwa [List.append_nil, ← hp] at hlt
      · obtain ⟨path, hp⟩ := place_of_below (List.getElem?_eq_getElem hi) hw
        obtain ⟨path', hp'⟩ := place_of_below (List.getElem?_eq_getElem hj) hv
        rw [hp, hp']
        exact List.append_left_lt (List.cons_lt_cons_iff.mpr (Or.inl hij))

end Site

namespace Node

/-- The places of a tree in the order in which a walk comes to them. -/
def places (n : Node) : List (List Nat) := n.sites.map Site.place

theorem map_follow_places (n : Node) : n.places.map n.follow = n.walk.map some := by
  have hsites : n.sites.map Site.node = n.walk := Site.map_node_walk (Site.root n)
  rw [places, ← hsites, List.map_map, List.map_map]
  exact List.map_congr_left fun s hs => Site.node_follow_place hs

theorem mem_places {n : Node} {path : List Nat} : path ∈ n.places ↔ (n.follow path).isSome := by
  constructor
  · intro h
    obtain ⟨s, hs, rfl⟩ := List.mem_map.mp h
    exact Option.isSome_iff_exists.mpr ⟨s.node, Site.node_follow_place hs⟩
  · intro h
    rw [show n = (Site.root n).node from rfl, ← Site.map_node_follow, Option.isSome_map] at h
    obtain ⟨s, hs⟩ := Option.isSome_iff_exists.mp h
    exact List.mem_map.mpr ⟨s, Site.mem_walk_of_follow hs, Site.place_of_follow hs⟩

theorem pairwise_places (n : Node) : n.places.Pairwise (· < ·) := List.pairwise_map.mpr (Site.pairwise_walk (Site.root n))

theorem count_places (n : Node) (path : List Nat) : n.places.count path = if (n.follow path).isSome then 1 else 0 := by
  have hnodup : n.places.Nodup := n.pairwise_places.imp fun {p q} hlt (heq : p = q) =>
    List.lt_irrefl q (heq ▸ hlt)
  rw [hnodup.count]
  exact if_congr mem_places rfl rfl

/-! ## The loop -/

theorem total_reverse_children_lt_size (n : Node) : total size n.children.reverse < n.size := by
  rw [total_reverse]
  exact total_children_lt_size n

/-- What the loop has given out is the front of the walk; the rest is on the stack, the next node on top. -/
theorem walk_turn {all : List Node} (rest : List Node) (m : Node) (output : List Node)
    (h : output ++ (rest ++ [m]).reverse.flatMap walk = all) :
    (output ++ [m]) ++ (rest ++ m.children.reverse).reverse.flatMap walk = all := by
  rw [List.reverse_append, List.reverse_singleton, List.flatMap_append, List.flatMap_singleton, walk_eq m] at h
  rw [List.reverse_append, List.reverse_reverse, List.flatMap_append, List.append_assoc, List.singleton_append]
  exact h

theorem iterate_walk (n : Node) :
    (Loop.turn (fun m => m.children.reverse) fun m => [m])^[n.size] (.start n) = ⟨[], n.walk⟩ := by
  obtain ⟨output, hend, hwalk⟩ := Loop.ends_with
    (motive := fun s => s.output ++ s.stack.reverse.flatMap walk = n.walk)
    total_reverse_children_lt_size walk_turn (n := n) (List.append_nil n.walk)
  rw [hend, ← hwalk]
  exact congrArg _ (List.append_nil output).symm

/-! ## Leaves -/

/-- The leaves of a tree in the order of a walk. -/
def leaves (n : Node) : List Node := n.walk.filter isLeaf

theorem leaves_eq (n : Node) : n.leaves = if n.isLeaf then [n] else n.children.flatMap leaves := by
  rw [leaves, walk_eq, List.filter_cons, List.filter_flatMap]
  cases hl : n.isLeaf with
  | true => rw [if_pos rfl, if_pos rfl, List.isEmpty_iff.mp hl, List.flatMap_nil]
  | false => rfl

theorem render_eq_join_leaves {n : Node} (h : ∀ m ∈ n.walk, m.leading = "" ∧ m.trailing = "") :
    n.render = String.join (n.leaves.map text) := by
  induction n using induction_on with
  | step n ih =>
      obtain ⟨hleading, htrailing⟩ := h n n.self_mem_walk
      have hchildren : ∀ c ∈ n.children, c.render = String.join (c.leaves.map text) :=
        fun c hc => ih c hc fun m hm => h m (mem_walk_of_child hc hm)
      rw [leaves_eq]
      obtain ⟨head, children⟩ := n
      cases children with
      | nil =>
          rw [render, show head.leading = "" from hleading, show head.trailing = "" from htrailing]
          simp [isLeaf, text, String.join]
      | cons c cs =>
          have hclosing : closing head (c :: cs) = "" := htrailing
          calc (mk head (c :: cs)).render
              = String.join ((c :: cs).map render) := by
                rw [render_mk, renderAll_eq_join, show head.leading = "" from hleading, hclosing, String.empty_append,
                  String.append_empty]
            _ = String.join ((c :: cs).map fun d => String.join (d.leaves.map text)) :=
                congrArg _ (List.map_congr_left hchildren)
            _ = String.join (((c :: cs).flatMap leaves).map text) := by rw [List.map_flatMap, join_flatMap]

/-! ## Walks -/

/-- The loop of a walk ends, and it gives out the tree itself and then the walks of its children one after the other.
These are the nodes at the places of the tree; each place comes once, after those in front of it in a dictionary and
never after one that lies below it. Where nodes have no text around them, the texts of the leaves, as they come, are
what the tree prints. -/
theorem walk_preorder (n : Node) :
    (Loop.turn (fun m => m.children.reverse) fun m => [m])^[n.size] (.start n) = ⟨[], n.walk⟩ ∧
      n.walk = n :: n.children.flatMap walk ∧
      n.walk.map some = n.places.map n.follow ∧
      (∀ path, n.places.count path = if (n.follow path).isSome then 1 else 0) ∧
      n.places.Pairwise (fun p q => p < q ∧ ¬ q <+: p) ∧
      ((∀ m ∈ n.walk, m.leading = "" ∧ m.trailing = "") → n.render = String.join ((n.walk.filter isLeaf).map text)) := by
  refine ⟨n.iterate_walk, n.walk_eq, n.map_follow_places.symm, n.count_places, ?_, render_eq_join_leaves⟩
  exact n.pairwise_places.imp fun hlt => ⟨hlt, fun hp => hp.le hlt⟩

end Node

namespace Sample

/-- A sum of two equal nodes in brackets. The text of the sum itself is not printed. -/
def twice : Node :=
  .mk { kind := "parenthesized_expression" }
    [.token "(", .mk { kind := Kind.binary, text := "?" } [.identifier "a", .token "+", .identifier "a"], .token ")"]

theorem twice_walk : (∀ m ∈ twice.walk, m.leading = "" ∧ m.trailing = "") ∧
    twice.render = String.join ((twice.walk.filter Node.isLeaf).map Node.text) ∧
    twice.places = [[], [0], [1], [1, 0], [1, 1], [1, 2], [2]] ∧ twice.render = "(a+a)" := by
  obtain ⟨_, _, _, _, _, hrender⟩ := twice.walk_preorder
  have hplain : ∀ m ∈ twice.walk, m.leading = "" ∧ m.trailing = "" := by decide +kernel
  exact ⟨hplain, hrender hplain, by decide +kernel, by decide⟩

end Sample

end AttrHoist
