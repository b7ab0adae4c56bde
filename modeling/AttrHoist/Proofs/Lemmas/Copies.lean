import AttrHoist.Constancy
import AttrHoist.Proofs.Lemmas.Similar
import AttrHoist.Proofs.Lemmas.Sites

/-!
# Copies of a subtree

When a subtree is copied to another place, every site below it has a counterpart there. What the analyses say about
two counterparts differs only by what encloses the two places.
-/

namespace AttrHoist

/-! ## Nodes that look the same from the inside -/

/-- Nodes with the same children that differ at most in their role and in the text around them. -/
structure Node.Alike (n m : Node) : Prop where
  kind : n.kind = m.kind
  text : n.text = m.text
  named : n.named = m.named
  children : n.children = m.children

namespace Node.Alike
variable {n m : Node}

theorem refl (n : Node) : Alike n n := ⟨rfl, rfl, rfl, rfl⟩

theorem symm (h : Alike n m) : Alike m n := ⟨h.kind.symm, h.text.symm, h.named.symm, h.children.symm⟩

theorem isFunction (h : Alike n m) : n.isFunction = m.isFunction := by
  rw [Node.isFunction, Node.isFunction, h.kind]

theorem child? (h : Alike n m) (f : String) : n.child? f = m.child? f := by
  rw [Node.child?, Node.child?, h.children]

theorem namedChildren (h : Alike n m) : n.namedChildren = m.namedChildren := by
  rw [Node.namedChildren, Node.namedChildren, h.children]

theorem parameterNames (h : Alike n m) : n.parameterNames = m.parameterNames := by
  simp only [Node.parameterNames, parameters?, h.child?]

theorem isCalled (h : Alike n m) (name : String) : n.isCalled name = m.isCalled name := by
  rw [Node.isCalled, Node.isCalled, h.child?]

theorem declaredNames (h : Alike n m) : n.declaredNames = m.declaredNames := by
  rw [declaredNames_eq, declaredNames_eq m, h.isFunction, h.children]
  simp only [ownNames, namesIn, h.kind, h.child?]

theorem binds (h : Alike n m) (name : String) : n.binds name = m.binds name := by
  rw [Node.binds, Node.binds, bodyNames, bodyNames, h.child?, h.child?, h.parameterNames]

theorem readsReceiver (h : Alike n m) : n.readsReceiver = m.readsReceiver := by
  rw [Node.readsReceiver, Node.readsReceiver, h.children]

theorem scopeBinding? (h : Alike n m) (name : String) : n.scopeBinding? name = m.scopeBinding? name := by
  simp only [Node.scopeBinding?, functionBinding?, moduleBinding, h.isFunction, h.parameterNames, h.kind, h.isCalled,
    h.child?, h.declaredNames, h.namedChildren]

end Node.Alike

/-! ## Counterparts -/

namespace Site

/-- `Parallel s t w v`: the same steps lead down from `s` to `w` and from `t` to `v`. -/
inductive Parallel (s t : Site) : Site → Site → Prop
  | here : Parallel s t s t
  | step {w v n i} (h : Parallel s t w v) (hn : w.node.children[i]? = some n) :
      Parallel s t (w.descend n i) (v.descend n i)

/-- The same for at least one step. -/
inductive ParallelBelow (s t : Site) : Site → Site → Prop
  | step {w v n i} (h : Parallel s t w v) (hn : w.node.children[i]? = some n) :
      ParallelBelow s t (w.descend n i) (v.descend n i)

variable {s t w v : Site}

theorem ParallelBelow.parallel (h : ParallelBelow s t w v) : Parallel s t w v := by
  cases h with
  | step h hn => exact .step h hn

theorem ParallelBelow.node_eq (h : ParallelBelow s t w v) : w.node = v.node := by
  cases h with
  | step => rfl

theorem Parallel.trans {s' t' : Site} (h : Parallel s t s' t') (h' : Parallel s' t' w v) : Parallel s t w v := by
  induction h' with
  | here => exact h
  | step _ hn ih => exact .step ih hn

theorem Parallel.mem_walk (h : Parallel s t w v) : w ∈ s.walk := by
  induction h with
  | here => exact self_mem_walk s
  | @step w v n i _ hn ih =>
      have hc : w.descend n i ∈ w.children := mem_children.mpr ⟨i, n, hn, rfl⟩
      exact mem_walk_trans ih (child_mem_walk hc)

theorem Parallel.alike (hs : s.node.Alike t.node) (h : Parallel s t w v) : w.node.Alike v.node := by
  cases h with
  | here => exact hs
  | @step _ _ n => exact .refl n

theorem Parallel.symm (hs : s.node.Alike t.node) (h : Parallel s t w v) : Parallel t s v w := by
  induction h with
  | here => exact .here
  | step h hn ih => exact .step ih (by rw [← (h.alike hs).children, hn])

/-- What encloses two counterparts: nodes that look the same, then what encloses the two places. -/
theorem Parallel.ancestors (hs : s.node.Alike t.node) (h : Parallel s t w v) :
    ∃ q q', w.ancestors = q ++ s.ancestors ∧ v.ancestors = q' ++ t.ancestors ∧
      List.Forall₂ (fun a b : Site => a.node.Alike b.node) q q' := by
  induction h with
  | here => exact ⟨[], [], rfl, rfl, .nil⟩
  | @step w v n i h _ ih =>
      obtain ⟨q, q', hq, hq', hqq⟩ := ih
      refine ⟨w :: q, v :: q', ?_, ?_, .cons (h.alike hs) hqq⟩
      · rw [ancestors_descend, hq, List.cons_append]
      · rw [ancestors_descend, hq', List.cons_append]

section
variable (hs : s.node.Alike t.node)
include hs

theorem Parallel.children (h : Parallel s t w v) : List.Forall₂ (ParallelBelow s t) w.children v.children := by
  rw [Site.children, Site.children, (h.alike hs).children, List.forall₂_map_left_iff, List.forall₂_map_right_iff,
    List.forall₂_same]
  intro p hp
  rw [← (h.alike hs).children] at hp
  exact .step h (List.mem_zipIdx_iff_getElem?.mp hp)

theorem ParallelBelow.follow (h : ParallelBelow s t w v) {path : List Nat} {x : Site}
    (hx : w.follow path = some x) : ∃ y, v.follow path = some y ∧ ParallelBelow s t x y := by
  induction path generalizing w v with
  | nil => cases hx; exact ⟨v, rfl, h⟩
  | cons i path ih =>
      obtain ⟨c, hc, hx⟩ := follow_cons.mp hx
      obtain ⟨d, hd, hcd⟩ := rel_getElem?_left (h.parallel.children hs) hc
      obtain ⟨y, hy, hxy⟩ := ih hcd hx
      exact ⟨y, follow_cons.mpr ⟨d, hd, hy⟩, hxy⟩

/-- Any way down that takes a step leads to counterparts. -/
theorem ParallelBelow.of_follow {path : List Nat} (hp : path ≠ []) (hw : s.follow path = some w) :
    ∃ y, t.follow path = some y ∧ ParallelBelow s t w y := by
  cases path with
  | nil => exact absurd rfl hp
  | cons i path =>
      obtain ⟨c, hc, hw⟩ := follow_cons.mp hw
      obtain ⟨d, hd, hcd⟩ := rel_getElem?_left (Parallel.here.children hs) hc
      obtain ⟨y, hy, hwy⟩ := hcd.follow hs hw
      exact ⟨y, follow_cons.mpr ⟨d, hd, hy⟩, hwy⟩

theorem Parallel.of_follow {path : List Nat} (hw : s.follow path = some w) :
    ∃ y, t.follow path = some y ∧ Parallel s t w y := by
  by_cases hp : path = []
  · subst hp
    cases hw
    exact ⟨t, rfl, .here⟩
  · obtain ⟨y, hy, hwy⟩ := ParallelBelow.of_follow hs hp hw
    exact ⟨y, hy, hwy.parallel⟩

theorem Parallel.namedChildren (h : Parallel s t w v) :
    List.Forall₂ (ParallelBelow s t) w.namedChildren v.namedChildren :=
  rel_filter (h.children hs) fun _ _ h => by rw [kind, kind, h.node_eq]

theorem Parallel.child? (h : Parallel s t w v) (f : String) :
    Option.Rel (ParallelBelow s t) (w.child? f) (v.child? f) :=
  rel_find? (h.children hs) fun _ _ h => by rw [h.node_eq]

theorem ParallelBelow.walk (h : ParallelBelow s t w v) : List.Forall₂ (ParallelBelow s t) w.walk v.walk := by
  induction w using induction_on generalizing v with
  | step w ih =>
      rw [walk_eq, walk_eq v]
      exact .cons h (forall₂_flatMap (h.parallel.children hs) fun c hc d hcd => ih c hc hcd)

/-! ## Reads -/

theorem ParallelBelow.isRead (h : ParallelBelow s t w v) : w.isRead = v.isRead := by
  cases h with
  | step h =>
      have hk : (Site.kind _) = Site.kind _ := (h.alike hs).kind
      simp only [Site.isRead, isBuiltinTag, parent?_descend, Option.any_some, hk]
      rfl

theorem ParallelBelow.reads (h : ParallelBelow s t w v) : List.Forall₂ (ParallelBelow s t) w.reads v.reads :=
  rel_filter (h.walk hs) fun _ _ h => h.isRead hs

theorem functionReads_parallel : List.Forall₂ (ParallelBelow s t) s.functionReads t.functionReads := by
  have hp := rel_or (Parallel.here.child? hs "parameters") (Parallel.here.child? hs "parameter")
  refine List.rel_append (forall₂_flatMap (rel_toList hp) ?_)
    (forall₂_flatMap (rel_toList (Parallel.here.child? hs "body")) ?_)
  · exact fun _ _ _ h => h.reads hs
  · exact fun _ _ _ h => h.reads hs

end

/-! ## Bound reads -/

theorem sameSteps_self (cs : List Crumb) : sameSteps cs cs = true := (sameSteps_iff cs cs).mpr rfl

theorem not_sameSteps_of_length {cs ds : List Crumb} (h : ds.length < cs.length) : sameSteps cs ds = false := by
  cases hs : sameSteps cs ds with
  | false => rfl
  | true =>
      have hl := congrArg List.length ((sameSteps_iff cs ds).mp hs)
      rw [List.length_map, List.length_map] at hl
      omega

theorem Parallel.length_le (h : Parallel s t w v) :
    s.trail.length ≤ w.trail.length ∧ t.trail.length ≤ v.trail.length := by
  induction h with
  | here => exact ⟨Nat.le_refl _, Nat.le_refl _⟩
  | step _ _ ih => exact ⟨Nat.le_succ_of_le ih.1, Nat.le_succ_of_le ih.2⟩

/-- One scope's answer to whether a name is bound inside the function `f`; the function itself always answers. -/
def scopeAnswer (f : Site) (name : String) (scope : Site) : Option Bool :=
  if scope.samePlace f then some (f.node.binds name)
  else if scope.node.innerBinds name then some true
  else none

theorem boundWithin_eq (f i : Site) : f.boundWithin i = (i.ancestors.findSome? (scopeAnswer f i.text)).getD false :=
  rfl

/-- From two counterparts outwards the scopes up to the two functions give the same answers. -/
theorem Parallel.scopeAnswers (hs : s.node.Alike t.node) (h : Parallel s t w v) (name : String) :
    (w :: w.ancestors).findSome? (scopeAnswer s name) = (v :: v.ancestors).findSome? (scopeAnswer t name) := by
  induction h with
  | here =>
      simp only [List.findSome?_cons, scopeAnswer, samePlace, sameSteps_self, ↓reduceIte, hs.binds]
  | @step w v n i h _ ih =>
      have hl := h.length_le
      have hw : (w.descend n i).samePlace s = false := not_sameSteps_of_length (Nat.lt_succ_of_le hl.1)
      have hv : (v.descend n i).samePlace t = false := not_sameSteps_of_length (Nat.lt_succ_of_le hl.2)
      rw [List.findSome?_cons, List.findSome?_cons, ancestors_descend, ancestors_descend, ih, scopeAnswer, scopeAnswer,
        hw, hv]
      rfl

theorem ParallelBelow.boundWithin (hs : s.node.Alike t.node) (h : ParallelBelow s t w v) :
    s.boundWithin w = t.boundWithin v := by
  cases h with
  | step h =>
      rw [boundWithin_eq, boundWithin_eq, ancestors_descend, ancestors_descend, h.scopeAnswers hs]
      rfl

theorem freeReads_parallel (hs : s.node.Alike t.node) : List.Forall₂ (ParallelBelow s t) s.freeReads t.freeReads :=
  rel_filter (functionReads_parallel hs) fun _ _ h => by rw [h.boundWithin hs]

end Site

/-! ## Constancy -/

/-- What holds of an expression whenever it holds of the parts that must be constant holds of every expression. -/
theorem Site.induction_on_parts {motive : Site → Prop}
    (step : ∀ s : Site, (∀ p, .part p ∈ s.requirements → motive p) → motive s) (s : Site) : motive s := by
  -- by size: a part that an expression asks for is smaller but need not be a child
  induction h : s.node.size using Nat.strongRecOn generalizing s with
  | ind size ih =>
      apply step
      intro p hp
      exact ih p.node.size (h ▸ part_smaller hp) p rfl

/-- Two requirements of the same sort about counterparts. -/
inductive Requirement.Rel (P : Site → Site → Prop) : Requirement → Requirement → Prop
  | part {p q} (h : P p q) : Rel P (.part p) (.part q)
  | fixed {i j} (h : P i j) : Rel P (.fixed i) (.fixed j)
  | impossible {e e'} : Rel P (.impossible e) (.impossible e')

namespace Site
variable {s t w v : Site} (hs : s.node.Alike t.node)
include hs

theorem ParallelBelow.memberRequirement (h : ParallelBelow s t w v) :
    Requirement.Rel (Parallel s t) w.memberRequirement v.memberRequirement := by
  have hkind : w.kind = v.kind := congrArg Node.kind h.node_eq
  unfold Site.memberRequirement
  rw [hkind]
  by_cases hp : v.kind ≠ Kind.pair
  · rw [if_pos hp, if_pos hp]
    exact .impossible
  rw [if_neg hp, if_neg hp]
  have hk := h.parallel.child? hs "key"
  have hv := h.parallel.child? hs "value"
  revert hk hv
  generalize w.child? "key" = a, v.child? "key" = a', w.child? "value" = b, v.child? "value" = b'
  intro hk hv
  cases hk with
  | none => exact .impossible
  | @some key key' hk =>
      have hkind : key.kind = key'.kind := congrArg Node.kind hk.node_eq
      cases hv with
      | none => exact .impossible
      | some hv =>
          by_cases hc : key'.kind = Kind.computedName
          · simp only [hkind, if_pos hc]
            exact .impossible
          · simp only [hkind, if_neg hc]
            exact .part hv.parallel

theorem Parallel.substitutions (h : Parallel s t w v) :
    List.Forall₂ (ParallelBelow s t) w.substitutions v.substitutions := by
  refine forall₂_flatMap (rel_filter (h.namedChildren hs) fun _ _ h => by rw [kind, kind, h.node_eq]) ?_
  exact fun _ _ _ h => h.parallel.namedChildren hs

theorem Parallel.functionRequirements (h : Parallel s t w v) :
    List.Forall₂ (Requirement.Rel (Parallel s t)) w.functionRequirements v.functionRequirements := by
  have ha := h.alike hs
  unfold Site.functionRequirements
  rw [kind, kind, ha.kind, ha.readsReceiver]
  split
  · exact .cons .impossible .nil
  · rw [List.forall₂_map_left_iff, List.forall₂_map_right_iff]
    exact (freeReads_parallel ha).imp fun _ _ hi => .fixed (h.trans hi.parallel)

/-- Counterparts ask for the same things of counterparts. -/
theorem Parallel.requirements (h : Parallel s t w v) :
    List.Forall₂ (Requirement.Rel (Parallel s t)) w.requirements v.requirements := by
  have hkind : w.kind = v.kind := (h.alike hs).kind
  unfold Site.requirements
  rw [hkind]
  split
  · exact .nil
  split
  · rw [List.forall₂_map_left_iff, List.forall₂_map_right_iff]
    exact (h.namedChildren hs).imp fun _ _ h => h.memberRequirement hs
  split
  · rw [List.forall₂_map_left_iff, List.forall₂_map_right_iff]
    exact (h.substitutions hs).imp fun _ _ h => .part h.parallel
  split
  · have hl := h.child? hs "left"
    have hr := h.child? hs "right"
    revert hl hr
    generalize w.child? "left" = a, v.child? "left" = a', w.child? "right" = b, v.child? "right" = b'
    intro hl hr
    cases hl with
    | none => exact .cons .impossible .nil
    | some hl =>
        cases hr with
        | none => exact .cons .impossible .nil
        | some hr => exact .cons (.part hl.parallel) (.cons (.part hr.parallel) .nil)
  split
  · exact .cons (.fixed h) .nil
  split
  · exact h.functionRequirements hs
  · exact .cons .impossible .nil

end Site

theorem Site.value_lexicalDeclaration (s : Site) :
    s.lexicalDeclaration.value = (s.ancestors.findSome? (·.node.scopeBinding? s.text)).getD .unresolved := by
  unfold lexicalDeclaration
  split
  · next h => rw [h]; rfl
  · next h => rw [h]; rfl

theorem Site.lexicalDeclaration_congr {s s' : Site} (htext : s'.text = s.text)
    (h : s'.ancestors.findSome? (·.node.scopeBinding? s.text) = s.ancestors.findSome? (·.node.scopeBinding? s.text)) :
    s'.lexicalDeclaration = s.lexicalDeclaration := by
  rw [lexicalDeclaration, lexicalDeclaration, htext, h]

/-- Counterparts refer to the same declaration if the scopes around the two places decide its name in the same way. -/
theorem Site.Parallel.lexicalDeclaration {s t w v : Site} (hs : s.node.Alike t.node) (h : Parallel s t w v)
    (hscopes : List.Forall₂ (fun a b : Site => a.node.scopeBinding? w.text = b.node.scopeBinding? w.text)
      s.ancestors t.ancestors) : v.lexicalDeclaration = w.lexicalDeclaration := by
  obtain ⟨q, q', hq, hq', hqq⟩ := h.ancestors hs
  refine lexicalDeclaration_congr (h.alike hs).text.symm ?_
  rw [hq, hq', List.findSome?_append, List.findSome?_append, rel_findSome? hqq fun a b hab => hab.scopeBinding? w.text,
    rel_findSome? hscopes fun _ _ hab => hab]

namespace Resolver

theorem value_constant (r : Resolver) (s : Site) :
    (r.constant s).value = s.requirements.all fun q => (r.meets q).value := by
  rw [constant_eq, Traced.value_all, List.all_map]
  rfl

theorem value_fixed (r : Resolver) (s : Site) : (r.fixed s).value = (r.resolve s).value.isFixed := by
  rw [fixed, Traced.value_bind]
  cases (r.resolve s).value.isFixed with
  | true => rfl
  | false => rfl

/-- A copy of a constant expression is constant if its identifiers keep their fixed declarations. -/
theorem constant_of_parallel {r r' : Resolver} {s t w v : Site} (hs : s.node.Alike t.node)
    (hf : ∀ {i j}, Site.Parallel s t i j → (r.fixed i).value = true → (r'.fixed j).value = true)
    (h : Site.Parallel s t w v) (hc : (r.constant w).value = true) : (r'.constant v).value = true := by
  induction w using Site.induction_on_parts generalizing v with
  | step w ih =>
      rw [value_constant, List.all_eq_true] at hc
      rw [value_constant, List.all_eq_true]
      intro q hq
      obtain ⟨i, hi⟩ := List.mem_iff_getElem?.mp hq
      obtain ⟨q', hq', hrel⟩ := rel_getElem? (h.requirements hs) hi
      have hmem := List.mem_of_getElem? hq'
      have hmeets := hc q' hmem
      cases hrel with
      | part hp => exact ih _ hmem hp hmeets
      | fixed hfix => exact hf hfix hmeets
      | impossible => cases hmeets

end Resolver

end AttrHoist
