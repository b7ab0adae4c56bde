import AttrHoist.Store.Basic
import Mathlib.Logic.Relation

/-!
# Stores that grow

Every operation that makes nodes is a run of single creations. What such a run can do is said once, by `Store.Grows`;
that links stay sound, that old nodes keep their heads and children, and what can be reached from where follow from it.
-/

namespace AttrHoist.Store

/-! ## Single nodes -/

theorem cell_of_size_le {s : Store} {r : Nat} (h : s.size ≤ r) : s.cell r = {} := by
  have h' : ¬ r < s.cells.size := Nat.not_lt.mpr h
  simp [cell, Array.getD, h']

theorem lt_size_of_child {s : Store} {r c : Nat} (h : c ∈ (s.cell r).children) : r < s.size := by
  refine Nat.lt_of_not_le fun hr => ?_
  rw [cell_of_size_le hr] at h
  cases h

section
variable (s : Store) (head : Head) (cs : List Nat)

@[simp] theorem size_create : (s.create head cs).size = s.size + 1 := by
  simp [create, size]

theorem cell_create_self : (s.create head cs).cell s.size = { head, children := cs } := by
  simp [create, cell, size, Array.getElem_push]

theorem cell_create_old {r : Nat} (hr : r < s.size) :
    (s.create head cs).cell r = if r ∈ cs then { s.cell r with parent := some s.size } else s.cell r := by
  have hr' : r < s.cells.size := hr
  simp [create, cell, size, Array.getElem_push, hr', Nat.lt_succ_of_lt hr']

theorem head_create {r : Nat} (hr : r < s.size) : ((s.create head cs).cell r).head = (s.cell r).head := by
  rw [cell_create_old s head cs hr]
  split <;> rfl

theorem children_create_self : ((s.create head cs).cell s.size).children = cs := by
  rw [cell_create_self]

theorem children_create {r : Nat} (hr : r ≠ s.size) :
    ((s.create head cs).cell r).children = (s.cell r).children := by
  rcases Nat.lt_or_gt_of_ne hr with h | h
  · rw [cell_create_old s head cs h]
    split <;> rfl
  · rw [cell_of_size_le (Nat.le_of_lt h), cell_of_size_le (by rw [size_create]; exact h)]

variable {cs} in
theorem parent_create (hc : ∀ c ∈ cs, c < s.size) (r : Nat) :
    ((s.create head cs).cell r).parent = if r ∈ cs then some s.size else (s.cell r).parent := by
  rcases Nat.lt_trichotomy r s.size with h | rfl | h
  · rw [cell_create_old s head cs h]
    split <;> rfl
  · rw [cell_create_self, if_neg fun hm => Nat.lt_irrefl _ (hc _ hm), cell_of_size_le (Nat.le_refl _)]
  · rw [cell_of_size_le (Nat.le_of_lt h), cell_of_size_le (by rw [size_create]; exact h),
      if_neg fun hm => Nat.lt_asymm h (hc _ hm)]

end

section
variable (s : Store) (r : Nat) (f : Head → Head)

@[simp] theorem size_setHead : (s.setHead r f).size = s.size := by
  simp [setHead, size]

theorem cell_setHead_of_ne {q : Nat} (h : q ≠ r) : (s.setHead r f).cell q = s.cell q := by
  simp [setHead, cell, Array.getD_eq_getD_getElem?, Array.getElem?_modify, Ne.symm h]

theorem links_setHead (q : Nat) : ((s.setHead r f).cell q).children = (s.cell q).children ∧
    ((s.setHead r f).cell q).parent = (s.cell q).parent := by
  by_cases h : q = r
  · subst h
    simp only [setHead, cell, Array.getD_eq_getD_getElem?, Array.getElem?_modify]
    cases s.cells[q]? <;> simp
  · rw [cell_setHead_of_ne s r f h]
    exact ⟨rfl, rfl⟩

theorem children_setHead (q : Nat) : ((s.setHead r f).cell q).children = (s.cell q).children :=
  (links_setHead s r f q).1

end

/-! ## Sound links -/

/-- `p` is the node created last among those that have `r` as a child. -/
def LastHolder (s : Store) (r p : Nat) : Prop :=
  r ∈ (s.cell p).children ∧ ∀ q, r ∈ (s.cell q).children → q ≤ p

/-- Children are older than the nodes that have them, and the parent of a node is the youngest node that has it. -/
structure Sound (s : Store) : Prop where
  older : ∀ r, ∀ c ∈ (s.cell r).children, c < r
  parent : ∀ r p, (s.cell r).parent = some p ↔ s.LastHolder r p
  orphan : ∀ r, (s.cell r).parent = none ↔ ∀ p, r ∉ (s.cell p).children

theorem sound_empty : ({} : Store).Sound :=
  have none (r p : Nat) (h : r ∈ (({} : Store).cell p).children) : False := Nat.not_lt_zero p (lt_size_of_child h)
  { older := fun r c hc => (none c r hc).elim
    parent := fun r p => iff_of_false (by simp [cell]) fun h => none r p h.1
    orphan := fun r => iff_of_true (by simp [cell]) (none r) }

section
variable (s : Store) (head : Head) {cs : List Nat} {r : Nat}

theorem lastHolder_create_of_mem (hr : r ∈ cs) (p : Nat) : (s.create head cs).LastHolder r p ↔ p = s.size := by
  have hself : r ∈ ((s.create head cs).cell s.size).children := by rwa [children_create_self]
  have hle : ∀ q, r ∈ ((s.create head cs).cell q).children → q ≤ s.size := fun q hq => by
    have h := lt_size_of_child hq
    rw [size_create] at h
    exact Nat.le_of_lt_succ h
  exact ⟨fun h => Nat.le_antisymm (hle p h.1) (h.2 _ hself), fun h => h ▸ ⟨hself, hle⟩⟩

theorem mem_children_create_of_not_mem (hr : r ∉ cs) (p : Nat) :
    r ∈ ((s.create head cs).cell p).children ↔ r ∈ (s.cell p).children := by
  by_cases hp : p = s.size
  · rw [hp, children_create_self, cell_of_size_le (Nat.le_refl _)]
    exact iff_of_false hr (by simp)
  · rw [children_create s head cs hp]

end

theorem Sound.create {s : Store} (h : s.Sound) (head : Head) {cs : List Nat} (hc : ∀ c ∈ cs, c < s.size) :
    (s.create head cs).Sound where
  older r c hm := by
    by_cases hr : r = s.size
    · subst hr
      rw [children_create_self] at hm
      exact hc c hm
    · rw [children_create s head cs hr] at hm
      exact h.older r c hm
  parent r p := by
    rw [parent_create s head hc]
    by_cases hr : r ∈ cs
    · rw [if_pos hr, lastHolder_create_of_mem s head hr, Option.some.injEq]
      exact eq_comm
    · rw [if_neg hr, h.parent, LastHolder, LastHolder]
      simp only [mem_children_create_of_not_mem s head hr]
  orphan r := by
    rw [parent_create s head hc]
    by_cases hr : r ∈ cs
    · rw [if_pos hr]
      refine iff_of_false (by simp) fun hno => hno s.size ?_
      rwa [children_create_self]
    · rw [if_neg hr, h.orphan]
      simp only [mem_children_create_of_not_mem s head hr]

theorem Sound.setHead {s : Store} (h : s.Sound) (r : Nat) (f : Head → Head) : (s.setHead r f).Sound where
  older q c hm := by
    rw [children_setHead] at hm
    exact h.older q c hm
  parent q p := by
    rw [(links_setHead s r f q).2, h.parent, LastHolder, LastHolder]
    simp only [children_setHead]
  orphan q := by
    rw [(links_setHead s r f q).2, h.orphan]
    simp only [children_setHead]

/-! ## What can be reached -/

/-- `s.Reaches r x`: going from nodes to their children leads from `r` to `x`. -/
def Reaches (s : Store) : Nat → Nat → Prop := Relation.ReflTransGen fun r c => c ∈ (s.cell r).children

theorem Reaches.le {s : Store} (hs : s.Sound) {r x : Nat} (h : s.Reaches r x) : x ≤ r := by
  induction h with
  | refl => exact Nat.le_refl r
  | tail _ hc ih => exact Nat.le_trans (Nat.le_of_lt (hs.older _ _ hc)) ih

theorem reaches_setHead {s : Store} {q : Nat} {f : Head → Head} {r x : Nat} :
    (s.setHead q f).Reaches r x ↔ s.Reaches r x := by
  simp only [Reaches, children_setHead]

/-! ## Reading trees -/

theorem read_eq {s : Store} (h : s.Sound) (r : Nat) :
    s.read r = .mk (s.cell r).head ((s.cell r).children.map s.read) := by
  have hall : (s.cell r).children.filter (· < r) = (s.cell r).children :=
    List.filter_eq_self.mpr fun c hc => decide_eq_true (h.older r c hc)
  rw [read, List.attach_map_val (f := s.read), hall]

/-- A tree is the same in two stores that agree on the nodes in it. -/
theorem read_congr {s t : Store} (hs : s.Sound) (ht : t.Sound) {p : Nat → Prop}
    (hp : ∀ r, p r → (t.cell r).head = (s.cell r).head ∧ (t.cell r).children = (s.cell r).children ∧
      ∀ c ∈ (s.cell r).children, p c) {r : Nat} (hr : p r) : t.read r = s.read r := by
  induction r using Nat.strongRecOn with
  | _ r ih =>
      obtain ⟨hh, hc, hbelow⟩ := hp r hr
      rw [read_eq hs, read_eq ht, hh, hc]
      congr 1
      exact List.map_congr_left fun c hm => ih c (hs.older r c hm) (hbelow c hm)

/-! ## Growth -/

/-- `s.Grows allowed t`: `t` comes from `s` by creating nodes one after the other, whose children are new themselves or
are allowed. -/
inductive Grows (s : Store) (allowed : Nat → Prop) : Store → Prop
  | refl : s.Grows allowed s
  | create {t head cs} (h : s.Grows allowed t) (hc : ∀ c ∈ cs, c < t.size ∧ (allowed c ∨ s.size ≤ c)) :
      s.Grows allowed (t.create head cs)

namespace Grows
variable {s t u : Store} {allowed allowed' : Nat → Prop}

theorem of_create (head : Head) {cs : List Nat} (hc : ∀ c ∈ cs, c < s.size) :
    s.Grows (fun _ => True) (s.create head cs) :=
  .create .refl fun c hm => ⟨hc c hm, Or.inl trivial⟩

theorem size_le (h : s.Grows allowed t) : s.size ≤ t.size := by
  induction h with
  | refl => exact Nat.le_refl _
  | create _ _ ih => rw [size_create]; exact Nat.le_succ_of_le ih

theorem trans (h : s.Grows allowed t) (h' : t.Grows allowed' u)
    (ha : ∀ c, allowed' c → allowed c ∨ s.size ≤ c) : s.Grows allowed u := by
  induction h' with
  | refl => exact h
  | create _ hc ih =>
      refine .create ih fun c hm => ⟨(hc c hm).1, ?_⟩
      rcases (hc c hm).2 with hall | hnew
      · exact ha c hall
      · exact Or.inr (Nat.le_trans h.size_le hnew)

theorem mono (h : s.Grows allowed t) (ha : ∀ c, allowed c → allowed' c) : s.Grows allowed' t :=
  trans .refl h fun c hc => Or.inl (ha c hc)

theorem sound (h : s.Grows allowed t) (hs : s.Sound) : t.Sound := by
  induction h with
  | refl => exact hs
  | create _ hc ih => exact ih.create _ fun c hm => (hc c hm).1

theorem head_eq (h : s.Grows allowed t) {r : Nat} (hr : r < s.size) : (t.cell r).head = (s.cell r).head := by
  induction h with
  | refl => rfl
  | create h _ ih => rw [head_create _ _ _ (Nat.lt_of_lt_of_le hr h.size_le), ih]

theorem children_eq (h : s.Grows allowed t) {r : Nat} (hr : r < s.size) :
    (t.cell r).children = (s.cell r).children := by
  induction h with
  | refl => rfl
  | create h _ ih => rw [children_create _ _ _ (Nat.ne_of_lt (Nat.lt_of_lt_of_le hr h.size_le)), ih]

theorem child_of_new (h : s.Grows allowed t) {r c : Nat} (hr : s.size ≤ r) (hc : c ∈ (t.cell r).children) :
    allowed c ∨ s.size ≤ c := by
  induction h with
  | refl => exact absurd (lt_size_of_child hc) (Nat.not_lt.mpr hr)
  | @create t head cs _ hcs ih =>
      by_cases hn : r = t.size
      · subst hn
        rw [children_create_self] at hc
        exact (hcs c hc).2
      · rw [children_create t head cs hn] at hc
        exact ih hc

theorem read_eq (h : s.Grows allowed t) (hs : s.Sound) {r : Nat} (hr : r < s.size) : t.read r = s.read r :=
  read_congr hs (h.sound hs) (p := (· < s.size))
    (fun q hq => ⟨h.head_eq hq, h.children_eq hq, fun c hc => Nat.lt_trans (hs.older q c hc) hq⟩) hr

/-- From old nodes, what could be reached before can be reached. -/
theorem reaches_of_old (h : s.Grows allowed t) (hs : s.Sound) {r x : Nat} (hr : r < s.size) (hx : t.Reaches r x) :
    s.Reaches r x ∧ x < s.size := by
  induction hx with
  | refl => exact ⟨.refl, hr⟩
  | tail _ hc ih =>
      rw [h.children_eq ih.2] at hc
      exact ⟨ih.1.tail hc, Nat.lt_trans (hs.older _ _ hc) ih.2⟩

/-- From new nodes, new ones can be reached and what is allowed. -/
theorem reaches_of_new (h : s.Grows allowed t)
    (ha : ∀ r c, allowed r → c ∈ (s.cell r).children → allowed c) {r x : Nat} (hr : s.size ≤ r)
    (hx : t.Reaches r x) : allowed x ∨ s.size ≤ x := by
  induction hx with
  | refl => exact Or.inr hr
  | @tail y c _ hc ih =>
      by_cases hy : y < s.size
      · rw [h.children_eq hy] at hc
        exact ih.elim (fun hall => Or.inl (ha y c hall hc)) fun hge => absurd hy (Nat.not_lt.mpr hge)
      · exact h.child_of_new (Nat.le_of_not_lt hy) hc

end Grows

/-! ## Copies -/

/-- `s.Makes allowed made`: the result is a grown store and a node of it that is new. -/
def Makes (s : Store) (allowed : Nat → Prop) (made : Store × Nat) : Prop :=
  s.Grows allowed made.1 ∧ s.size ≤ made.2 ∧ made.2 < made.1.size

theorem Makes.of_create {s t : Store} {allowed : Nat → Prop} (h : s.Grows allowed t) {cs : List Nat}
    (hc : ∀ c ∈ cs, c < t.size ∧ (allowed c ∨ s.size ≤ c)) (head : Head) :
    s.Makes allowed (t.create head cs, t.size) :=
  ⟨.create h hc, h.size_le, by rw [size_create]; exact Nat.lt_succ_self _⟩

theorem insert_mk (s : Store) (head : Head) (cs : List Node) :
    s.insert (.mk head cs) = ((s.insertAll cs).1.create head (s.insertAll cs).2, (s.insertAll cs).1.size) := rfl

theorem insertAll_cons (s : Store) (n : Node) (ns : List Node) :
    s.insertAll (n :: ns) = (((s.insert n).1.insertAll ns).1, (s.insert n).2 :: ((s.insert n).1.insertAll ns).2) := rfl

mutual
theorem insert_makes : (s : Store) → (n : Node) → s.Makes (fun _ => False) (s.insert n)
  | s, .mk head cs => by
      obtain ⟨hg, hr⟩ := insertAll_makes s cs
      rw [insert_mk]
      exact .of_create hg (fun c hc => ⟨(hr c hc).2, Or.inr (hr c hc).1⟩) head

theorem insertAll_makes : (s : Store) → (ns : List Node) → s.Grows (fun _ => False) (s.insertAll ns).1 ∧
    ∀ r ∈ (s.insertAll ns).2, s.size ≤ r ∧ r < (s.insertAll ns).1.size
  | s, [] => ⟨.refl, fun r hr => by cases hr⟩
  | s, n :: ns => by
      obtain ⟨hg, hle, hlt⟩ := insert_makes s n
      obtain ⟨hgs, hrs⟩ := insertAll_makes (s.insert n).1 ns
      rw [insertAll_cons]
      refine ⟨hg.trans hgs fun _ hf => hf.elim, fun r hr => ?_⟩
      rcases List.mem_cons.mp hr with rfl | hr
      · exact ⟨hle, Nat.lt_of_lt_of_le hlt hgs.size_le⟩
      · exact ⟨Nat.le_trans hg.size_le (hrs r hr).1, (hrs r hr).2⟩
end

mutual
theorem read_insert : (s : Store) → s.Sound → (n : Node) → (s.insert n).1.read (s.insert n).2 = n
  | s, hs, .mk head cs => by
      obtain ⟨hg, hr⟩ := insertAll_makes s cs
      have ht := hg.sound hs
      rw [insert_mk, read_eq (ht.create head fun c hc => (hr c hc).2), cell_create_self]
      congr 1
      refine Eq.trans ?_ (read_insertAll s hs cs)
      refine List.map_congr_left fun c hc => ?_
      exact (Grows.of_create head fun d hd => (hr d hd).2).read_eq ht (hr c hc).2

theorem read_insertAll : (s : Store) → s.Sound → (ns : List Node) →
    (s.insertAll ns).2.map (s.insertAll ns).1.read = ns
  | s, _, [] => rfl
  | s, hs, n :: ns => by
      obtain ⟨hg, _, hlt⟩ := insert_makes s n
      have ht := hg.sound hs
      rw [insertAll_cons, List.map_cons, (insertAll_makes _ ns).1.read_eq ht hlt, read_insert s hs n,
        read_insertAll _ ht ns]
end

theorem clone_makes (s : Store) (r : Nat) (f : Head → Head) : s.Makes (fun _ => False) (s.clone r f) :=
  insert_makes s _

theorem read_clone {s : Store} (hs : s.Sound) (r : Nat) (f : Head → Head) :
    (s.clone r f).1.read (s.clone r f).2 = (s.read r).mapHead f :=
  read_insert s hs _

/-! ## Detached nodes -/

theorem detached_grows (s : Store) (r : Nat) :
    s.Grows (fun _ => False) (s.detached r).1 ∧
      ((s.detached r).2 = r ∨ s.size ≤ (s.detached r).2 ∧ (s.detached r).2 < (s.detached r).1.size) := by
  rw [detached]
  split
  · exact ⟨.refl, Or.inl rfl⟩
  · exact ⟨(clone_makes s r id).1, Or.inr (clone_makes s r id).2⟩

theorem detachedAll_cons (s : Store) (r : Nat) (rs : List Nat) :
    s.detachedAll (r :: rs) =
      (((s.detached r).1.detachedAll rs).1, (s.detached r).2 :: ((s.detached r).1.detachedAll rs).2) := rfl

theorem detachedAll_grows (s : Store) (rs : List Nat) :
    s.Grows (fun _ => False) (s.detachedAll rs).1 ∧
      ∀ r ∈ (s.detachedAll rs).2, r ∈ rs ∨ s.size ≤ r ∧ r < (s.detachedAll rs).1.size := by
  induction rs generalizing s with
  | nil => exact ⟨.refl, fun r hr => by cases hr⟩
  | cons q qs ih =>
      obtain ⟨hg, hq⟩ := detached_grows s q
      obtain ⟨hgs, hrs⟩ := ih (s.detached q).1
      rw [detachedAll_cons]
      refine ⟨hg.trans hgs fun _ hf => hf.elim, fun r hr => ?_⟩
      rcases List.mem_cons.mp hr with rfl | hr
      · rcases hq with hq | ⟨hle, hlt⟩
        · rw [hq]
          exact Or.inl List.mem_cons_self
        · exact Or.inr ⟨hle, Nat.lt_of_lt_of_le hlt hgs.size_le⟩
      · rcases hrs r hr with hm | ⟨hle, hlt⟩
        · exact Or.inl (List.mem_cons_of_mem q hm)
        · exact Or.inr ⟨Nat.le_trans hg.size_le hle, hlt⟩

theorem withChildren_makes (s : Store) (r : Nat) (cs : List Nat) (hc : ∀ c ∈ cs, c < s.size) :
    s.Makes (· ∈ cs) (s.withChildren r cs) := by
  obtain ⟨hg, hrefs⟩ := detachedAll_grows s cs
  refine .of_create (hg.mono fun _ hf => hf.elim) (fun c hm => ?_) (s.cell r).head
  rcases hrefs c hm with hm | ⟨hle, hlt⟩
  · exact ⟨Nat.lt_of_lt_of_le (hc c hm) hg.size_le, Or.inl hm⟩
  · exact ⟨hlt, Or.inr hle⟩

end AttrHoist.Store
