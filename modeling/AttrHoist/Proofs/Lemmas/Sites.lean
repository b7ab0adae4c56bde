import AttrHoist.Proofs.Lemmas.Traversal

/-!
# Sites and what encloses them

Children of a site, the way down along positions, and the sites below a site.
-/

namespace AttrHoist

/-- The node reached by taking the children at the given positions, one after the other. -/
def Node.follow (n : Node) : List Nat → Option Node
  | [] => some n
  | i :: path => n.children[i]?.bind (follow · path)

namespace Site

/-! ## Children -/

theorem ancestors_descend (s : Site) (n : Node) (i : Nat) :
    (s.descend n i).ancestors = s :: s.ancestors := rfl

theorem parent?_descend (s : Site) (n : Node) (i : Nat) : (s.descend n i).parent? = some s := rfl

theorem getElem?_children (s : Site) (i : Nat) :
    s.children[i]? = s.node.children[i]?.map fun n => s.descend n i := by
  rw [children, List.getElem?_map, List.getElem?_zipIdx]
  cases s.node.children[i]? with
  | none => rfl
  | some n => simp

theorem getElem?_node {s c : Site} {i : Nat} (h : s.children[i]? = some c) : s.node.children[i]? = some c.node := by
  rw [← map_node_children, List.getElem?_map, h, Option.map_some]

theorem mem_children {s c : Site} : c ∈ s.children ↔ ∃ i n, s.node.children[i]? = some n ∧ c = s.descend n i := by
  constructor
  · intro h
    obtain ⟨i, hi⟩ := List.mem_iff_getElem?.mp h
    rw [getElem?_children, Option.map_eq_some_iff] at hi
    obtain ⟨n, hn, rfl⟩ := hi
    exact ⟨i, n, hn, rfl⟩
  · rintro ⟨i, n, hn, rfl⟩
    exact List.mem_iff_getElem?.mpr ⟨i, by rw [getElem?_children, hn, Option.map_some]⟩

theorem ancestors_of_child {s c : Site} (h : c ∈ s.children) : c.ancestors = s :: s.ancestors := by
  obtain ⟨i, n, _, rfl⟩ := mem_children.mp h
  rfl

theorem trail_of_child {s c : Site} (h : c ∈ s.children) : ∃ i, c.trail = ⟨s.node, i⟩ :: s.trail := by
  obtain ⟨i, n, _, rfl⟩ := mem_children.mp h
  exact ⟨i, rfl⟩

theorem parent?_of_child {s c : Site} (h : c ∈ s.children) : c.parent? = some s := by
  rw [parent?, ancestors_of_child h, List.head?_cons]

theorem length_children (s : Site) : s.children.length = s.node.children.length := by
  rw [← map_node_children, List.length_map]

/-! ## Ways down -/

/-- The site reached from a site by taking the children at the given positions, one after the other. -/
def follow (s : Site) : List Nat → Option Site
  | [] => some s
  | i :: path => s.children[i]?.bind (follow · path)

theorem follow_cons {s w : Site} {i : Nat} {path : List Nat} :
    s.follow (i :: path) = some w ↔ ∃ c, s.children[i]? = some c ∧ c.follow path = some w := by
  rw [follow, Option.bind_eq_some_iff]

theorem follow_append (s : Site) (p q : List Nat) : s.follow (p ++ q) = (s.follow p).bind (·.follow q) := by
  induction p generalizing s with
  | nil => rfl
  | cons i p ih =>
      rw [List.cons_append, follow, follow]
      cases s.children[i]? with
      | none => rfl
      | some c => exact ih c

theorem map_node_follow (s : Site) (path : List Nat) : (s.follow path).map node = s.node.follow path := by
  induction path generalizing s with
  | nil => rfl
  | cons i path ih =>
      rw [follow, Node.follow, getElem?_children]
      cases s.node.children[i]? with
      | none => rfl
      | some c => exact ih (s.descend c i)

theorem mem_walk_of_follow {s w : Site} {path : List Nat} (h : s.follow path = some w) : w ∈ s.walk := by
  induction path generalizing s with
  | nil => cases h; exact self_mem_walk w
  | cons i path ih =>
      obtain ⟨c, hc, hw⟩ := follow_cons.mp h
      exact mem_walk_of_child (List.mem_of_getElem? hc) (ih hw)

theorem follow_of_mem_walk {s w : Site} (h : w ∈ s.walk) : ∃ path, s.follow path = some w := by
  induction s using induction_on with
  | step s ih =>
      rcases mem_walk.mp h with he | ⟨c, hc, hw⟩
      · exact ⟨[], congrArg some he.symm⟩
      · obtain ⟨path, hp⟩ := ih c hc hw
        obtain ⟨i, hi⟩ := List.mem_iff_getElem?.mp hc
        exact ⟨i :: path, follow_cons.mpr ⟨c, hi, hp⟩⟩

theorem address_of_follow {s w : Site} {path : List Nat} (h : s.follow path = some w) :
    w.address = path.reverse ++ s.address := by
  induction path generalizing s with
  | nil => cases h; rfl
  | cons i path ih =>
      obtain ⟨c, hc, hw⟩ := follow_cons.mp h
      rw [getElem?_children, Option.map_eq_some_iff] at hc
      obtain ⟨n, _, rfl⟩ := hc
      rw [ih hw, List.reverse_cons, List.append_assoc]
      rfl

/-- The sites of a tree are told apart by their addresses. -/
theorem eq_of_address {t : Node} {w v : Site} (hw : w ∈ t.sites) (hv : v ∈ t.sites) (h : w.address = v.address) :
    w = v := by
  obtain ⟨p, hp⟩ := follow_of_mem_walk hw
  obtain ⟨q, hq⟩ := follow_of_mem_walk hv
  rw [address_of_follow hp, address_of_follow hq, List.append_cancel_right_eq, List.reverse_inj] at h
  rw [h, hq] at hp
  exact (Option.some.inj hp).symm

theorem mem_walk_trans {s v w : Site} (hv : v ∈ s.walk) (hw : w ∈ v.walk) : w ∈ s.walk := by
  induction s using induction_on with
  | step s ih =>
      rcases mem_walk.mp hv with rfl | ⟨c, hc, hv⟩
      · exact hw
      · exact mem_walk_of_child hc (ih c hc hv)

/-- What encloses a site below `s`: first sites below `s`, then what encloses `s`. -/
theorem ancestors_split {s w : Site} (hw : w ∈ s.walk) :
    ∃ q, w.ancestors = q ++ s.ancestors ∧ ∀ a ∈ q, a ∈ s.walk := by
  induction s using induction_on with
  | step s ih =>
      rcases mem_walk.mp hw with rfl | ⟨c, hc, hw⟩
      · exact ⟨[], rfl, fun _ h => by cases h⟩
      · obtain ⟨q, hq, hs⟩ := ih c hc hw
        refine ⟨q ++ [s], by rw [hq, ancestors_of_child hc, List.append_assoc]; rfl, ?_⟩
        intro a ha
        rcases List.mem_append.mp ha with ha | ha
        · exact mem_walk_of_child hc (hs a ha)
        · rw [List.mem_singleton.mp ha]
          exact self_mem_walk s

theorem mem_ancestors_of_below {s c w : Site} (hc : c ∈ s.children) (hw : w ∈ c.walk) : s ∈ w.ancestors := by
  obtain ⟨q, hq, _⟩ := ancestors_split hw
  rw [hq, ancestors_of_child hc]
  simp

theorem ancestors_trans {r s a : Site} (hs : s ∈ r.ancestors) (ha : a ∈ s.ancestors) : a ∈ r.ancestors := by
  obtain ⟨n, trail⟩ := r
  replace hs : s ∈ alongTrail trail := hs
  show a ∈ alongTrail trail
  induction trail with
  | nil => cases hs
  | cons c cs ih =>
      rcases List.mem_cons.mp hs with rfl | hs
      · exact List.mem_cons_of_mem _ ha
      · exact List.mem_cons_of_mem _ (ih hs)

/-! ## Depth -/

theorem length_le_of_mem_walk {s w : Site} (h : w ∈ s.walk) : s.trail.length ≤ w.trail.length := by
  induction s using induction_on with
  | step s ih =>
      rcases mem_walk.mp h with rfl | ⟨c, hc, hw⟩
      · exact Nat.le_refl _
      · obtain ⟨i, hi⟩ := trail_of_child hc
        have hle := ih c hc hw
        rw [hi, List.length_cons] at hle
        omega

theorem length_lt_of_ancestor {s a : Site} (h : a ∈ s.ancestors) : a.trail.length < s.trail.length := by
  obtain ⟨n, trail⟩ := s
  show a.trail.length < trail.length
  replace h : a ∈ alongTrail trail := h
  induction trail with
  | nil => cases h
  | cons c cs ih =>
      rcases List.mem_cons.mp h with rfl | h
      · exact Nat.lt_succ_self _
      · exact Nat.lt_succ_of_lt (ih h)

theorem length_lt_of_below {f c w : Site} (hc : c ∈ f.children) (hw : w ∈ c.walk) :
    f.trail.length < w.trail.length := by
  obtain ⟨i, hi⟩ := trail_of_child hc
  have hle := length_le_of_mem_walk hw
  rw [hi, List.length_cons] at hle
  omega

/-- A site that encloses `d` and lies in a tree that `d` lies in has `d` below it. -/
theorem mem_walk_of_ancestor {s d a : Site} (hd : d ∈ s.walk) (ha : a ∈ d.ancestors) (hs : a ∈ s.walk) :
    d ∈ a.walk := by
  induction s using induction_on with
  | step s ih =>
      rcases mem_walk.mp hd with rfl | ⟨c, hc, hdc⟩
      · have hlt := length_lt_of_ancestor ha
        have hle := length_le_of_mem_walk hs
        omega
      · obtain ⟨q, hq, hqc⟩ := ancestors_split hdc
        rw [hq, ancestors_of_child hc] at ha
        rcases List.mem_append.mp ha with ha' | ha'
        · exact ih c hc hdc (hqc a ha')
        · rcases List.mem_cons.mp ha' with rfl | ha'
          · exact hd
          · have hlt := length_lt_of_ancestor ha'
            have hle := length_le_of_mem_walk hs
            omega

/-- What encloses `r` and lies below `f` lies below the child of `f` that `r` lies below. -/
theorem mem_walk_of_between {f c r a : Site} (hc : c ∈ f.children) (hr : r ∈ c.walk) (ha : a ∈ r.ancestors)
    (hf : a ∈ f.walk) (hne : a ≠ f) : a ∈ c.walk := by
  obtain ⟨q, hq, hqc⟩ := ancestors_split hr
  rw [hq, ancestors_of_child hc] at ha
  rcases List.mem_append.mp ha with ha | ha
  · exact hqc a ha
  · rcases List.mem_cons.mp ha with rfl | ha
    · exact absurd rfl hne
    · have hlt := length_lt_of_ancestor ha
      have hle := length_le_of_mem_walk hf
      omega

end Site

end AttrHoist
