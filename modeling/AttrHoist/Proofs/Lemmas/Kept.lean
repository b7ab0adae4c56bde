import AttrHoist.Proofs.Lemmas.Rewritten
import AttrHoist.Proofs.Lemmas.Similar

/-!
# What a pass leaves as it was

Values are taken only where they stand in attribute position inside a function. So a pass changes neither the
head of a node that it does not take, nor the children of a node that holds no attribute values, nor anything
outside functions.
-/

namespace AttrHoist

namespace Pass

/-- `n` takes the place of the tree at `s`. -/
def Becomes (accepts : String → Bool) (r : Resolver) (s : Site) (n : Node) : Prop :=
  ∃ k vs, Rewritten (taken accepts r) s k n vs

/-- `n` takes the place of the tree at `s`, whose own value is not taken. -/
structure Kept (accepts : String → Bool) (r : Resolver) (s : Site) (n : Node) : Prop where
  notTaken : taken accepts r s = false
  becomes : Becomes accepts r s n

theorem RewrittenAll.becomes {accepts r ss k ns vs} (h : RewrittenAll (taken accepts r) ss k ns vs) :
    List.Forall₂ (Becomes accepts r) ss ns := by
  match h with
  | .nil => exact .nil
  | .cons h hs => exact .cons ⟨_, _, h⟩ (RewrittenAll.becomes hs)

variable {accepts : String → Bool} {r : Resolver} {s : Site} {n : Node}

/-! ## Where values are taken -/

theorem parent_of_candidate (h : s.isCandidate accepts = true) : ∃ q, s.parent? = some q ∧ q.kind ∈ Kind.holders := by
  rw [Site.isCandidate, Bool.and_eq_true, Bool.or_eq_true] at h
  rcases h.2 with h | h
  · unfold Site.isAttributeValue at h
    split at h
    · next braces attr element rest ha =>
        simp only [Bool.and_eq_true, beq_iff_eq] at h
        refine ⟨braces, by rw [Site.parent?, ha, List.head?_cons], ?_⟩
        rw [h.1.1.1]
        decide
    · cases h
  · unfold Site.isBranchOfValue at h
    cases hq : s.parent? with
    | none => rw [hq] at h; cases h
    | some q =>
        rw [hq, Option.any_some, Bool.and_eq_true, Bool.and_eq_true, beq_iff_eq] at h
        refine ⟨q, rfl, ?_⟩
        rw [h.1.1]
        decide

theorem not_candidate_of_child {c : Site} (hc : c ∈ s.children) (hk : s.kind ∉ Kind.holders) :
    c.isCandidate accepts = false := by
  cases ht : c.isCandidate accepts with
  | false => rfl
  | true =>
      obtain ⟨q, hq, hh⟩ := parent_of_candidate ht
      rw [Site.parent?_of_child hc] at hq
      cases hq
      exact absurd hh hk

/-- The statements of a module are too far up to be values of attributes. -/
theorem not_candidate_statement {t : Node} {c : Site} (hc : c ∈ (Site.root t).children) :
    c.isCandidate accepts = false := by
  obtain ⟨i, n, _, rfl⟩ := Site.mem_children.mp hc
  simp [Site.isCandidate, Site.isAttributeValue, Site.isBranchOfValue, Site.parent?, Site.ancestors, Site.root,
    Site.descend, Site.alongTrail]

theorem not_taken_of_child {c : Site} (hc : c ∈ s.children) (hk : s.kind ∉ Kind.holders) :
    taken accepts r c = false := by
  rw [taken_eq, not_candidate_of_child hc hk, Bool.false_and, Bool.false_and]

theorem not_taken_statement {t : Node} {c : Site} (hc : c ∈ (Site.root t).children) : taken accepts r c = false := by
  rw [taken_eq, not_candidate_statement hc, Bool.false_and, Bool.false_and]

theorem insideFunction_of_child {c : Site} (hc : c ∈ s.children) :
    c.insideFunction = (s.node.isFunction || s.insideFunction) := by
  rw [Site.insideFunction, Site.ancestors_of_child hc, List.any_cons, Site.insideFunction]

theorem not_taken_outside (h : s.insideFunction = false) : taken accepts r s = false := by
  rw [taken_eq, h, Bool.and_false, Bool.false_and]

/-! ## Heads and children -/

theorem Becomes.of_taken (h : Becomes accepts r s n) (ht : taken accepts r s = true) :
    ∃ k, n = .identifier (generatedName k) s.node.leading s.node.field := by
  obtain ⟨k, vs, h⟩ := h
  exact ⟨k, (h.inv_taken ht).1⟩

theorem Kept.children_become (h : Kept accepts r s n) :
    n.head = s.node.head ∧ List.Forall₂ (Becomes accepts r) s.children n.children := by
  obtain ⟨ht, k, vs, h⟩ := h
  obtain ⟨ns, rfl, hc⟩ := h.inv_kept ht
  exact ⟨rfl, hc.becomes⟩

theorem Kept.head (h : Kept accepts r s n) : n.head = s.node.head := h.children_become.1

theorem Kept.kind (h : Kept accepts r s n) : n.kind = s.kind := congrArg Head.kind h.head

theorem kept_of_becomes {ss : List Site} {ns : List Node} (h : List.Forall₂ (Becomes accepts r) ss ns)
    (ht : ∀ s ∈ ss, taken accepts r s = false) : List.Forall₂ (Kept accepts r) ss ns := by
  induction h with
  | nil => exact .nil
  | @cons s n ss ns h _ ih => exact .cons ⟨ht s (by simp), h⟩ (ih fun s hs => ht s (by simp [hs]))

theorem Kept.children (h : Kept accepts r s n) (hk : s.kind ∉ Kind.holders) :
    List.Forall₂ (Kept accepts r) s.children n.children :=
  kept_of_becomes h.children_become.2 fun _ hc => not_taken_of_child hc hk

/-! ## The same names -/

/-- `m` takes the place of `n` at some site that is kept. -/
def KeptNode (accepts : String → Bool) (r : Resolver) (n m : Node) : Prop :=
  ∃ s : Site, s.node = n ∧ Kept accepts r s m

/-- The same at a site of a certain sort. -/
def KeptWhere (accepts : String → Bool) (r : Resolver) (P : Site → Prop) (n m : Node) : Prop :=
  ∃ s : Site, s.node = n ∧ P s ∧ Kept accepts r s m

theorem keptWhere_of_kept {P : Site → Prop} {ss : List Site} {ns : List Node} (hP : ∀ s ∈ ss, P s)
    (h : List.Forall₂ (Kept accepts r) ss ns) : List.Forall₂ (KeptWhere accepts r P) (ss.map Site.node) ns := by
  rw [List.forall₂_map_left_iff]
  exact ((List.forall₂_and_left _ _).mpr ⟨hP, h⟩).imp fun s _ h => ⟨s, rfl, h.1, h.2⟩

theorem KeptNode.head {n m : Node} (h : KeptNode accepts r n m) : m.head = n.head := by
  obtain ⟨s, rfl, h⟩ := h
  exact h.head

theorem KeptNode.children {n m : Node} (h : KeptNode accepts r n m) (hk : n.kind ∉ Kind.holders) :
    List.Forall₂ (KeptNode accepts r) n.children m.children := by
  obtain ⟨s, rfl, h⟩ := h
  rw [← Site.map_node_children, List.forall₂_map_left_iff]
  exact (h.children hk).imp fun s _ h => ⟨s, rfl, h⟩

theorem similarity_kept (accepts : String → Bool) (r : Resolver) : Similarity (KeptNode accepts r) where
  head h := h.head.symm
  children h hk := h.children hk

theorem declaredNames_identifier (name leading : String) (field : Option String) :
    (Node.identifier name leading field).declaredNames = [] := by
  rw [Node.declaredNames_eq]
  rfl

/-- A sort of sites that, where the pass leaves them, passes on to their children outside of functions, and at which
only values that declare no names are taken. -/
structure Undeclared (accepts : String → Bool) (r : Resolver) (P : Site → Prop) : Prop where
  taken : ∀ {s}, P s → taken accepts r s = true → s.node.declaredNames = []
  child : ∀ {s c}, P s → Pass.taken accepts r s = false → s.node.isFunction = false → c ∈ s.children → P c

/-- Outside functions nothing is taken. -/
theorem undeclared_outside (accepts : String → Bool) (r : Resolver) :
    Undeclared accepts r fun s => s.insideFunction = false where
  taken ho ht := by
    rw [not_taken_outside ho] at ht
    cases ht
  child ho _ hf hc := by rw [insideFunction_of_child hc, hf, ho, Bool.or_false]

namespace Undeclared
variable {P : Site → Prop} (hP : Undeclared accepts r P)
include hP

theorem declaredNames (hs : P s) (h : Becomes accepts r s n) : n.declaredNames = s.node.declaredNames := by
  induction s using Site.induction_on generalizing n with
  | step s ih =>
      cases ht : Pass.taken accepts r s with
      | true =>
          obtain ⟨k, rfl⟩ := h.of_taken ht
          rw [declaredNames_identifier, hP.taken hs ht]
      | false =>
          have hsim := similarity_kept accepts r
          have hkept : KeptNode accepts r s.node n := ⟨s, rfl, ht, h⟩
          rw [Node.declaredNames_eq, Node.declaredNames_eq s.node, hsim.parts.ownNames hkept,
            ← hsim.parts.isFunction hkept]
          congr 1
          cases hf : s.node.isFunction with
          | true => rfl
          | false =>
              have hc : s.node.children.flatMap Node.declaredNames = s.children.flatMap (·.node.declaredNames) := by
                rw [← Site.map_node_children, List.flatMap_map]
              simp only [Bool.false_eq_true, ↓reduceIte, hc]
              refine (rel_flatMap (Kept.children_become ⟨ht, h⟩).2 ?_).symm
              exact fun c hcs m hm => (ih c hcs (hP.child hs ht hf hcs) hm).symm

theorem keptWhere_children (hs : P s) (h : Kept accepts r s n) (hf : s.node.isFunction = false)
    (hk : s.kind ∉ Kind.holders) : List.Forall₂ (KeptWhere accepts r P) s.node.children n.children := by
  rw [← Site.map_node_children]
  exact keptWhere_of_kept (fun c hc => hP.child hs h.notTaken hf hc) (h.children hk)

theorem sameNames : SameNames (KeptNode accepts r) (KeptWhere accepts r P) where
  similar h := by obtain ⟨s, hs, _, h⟩ := h; exact ⟨s, hs, h⟩
  declaredNames h := by
    obtain ⟨s, rfl, hs, h⟩ := h
    exact (hP.declaredNames hs h.becomes).symm
  declaration h he := by
    obtain ⟨s, rfl, hs, h⟩ := h
    have hf : s.node.isFunction = false := by rw [Node.isFunction, he]; decide
    refine rel_find? (hP.keptWhere_children hs h hf (by rw [Site.kind, he]; decide)) fun a b hab => ?_
    obtain ⟨c, rfl, _, hc⟩ := hab
    rw [Node.field, Node.field, hc.head]

/-- The named statements in a program correspond. -/
theorem keptWhere_named {ns ms : List Node} (h : List.Forall₂ (KeptWhere accepts r P) ns ms) :
    List.Forall₂ (KeptWhere accepts r P) (ns.filter fun c => c.named && c.kind != Kind.comment)
      (ms.filter fun c => c.named && c.kind != Kind.comment) := by
  refine rel_filter h ?_
  intro a b hab
  have hs := hP.sameNames.similar hab
  rw [(similarity_kept accepts r).named hs, (similarity_kept accepts r).kind hs]

end Undeclared

end Pass

end AttrHoist
