import AttrHoist.Proofs.Lemmas.Output
import AttrHoist.Proofs.Lemmas.Surroundings

/-!
# Where the sites of a result come from

Every site of the tree after a pass takes the place of a site of the tree before it or belongs to an appended
declaration. What is a candidate at its new place was one before.
-/

namespace AttrHoist

/-! ## Passes that change nothing -/

namespace Pass

mutual
theorem Rewritten.of_nil {p s k n vs} (h : Rewritten p s k n vs) (hv : vs = []) :
    n = s.node ∧ ∀ w ∈ s.walk, p w = false := by
  match h with
  | .taken _ => cases hv
  | .kept hp hc =>
      obtain ⟨hns, hw⟩ := RewrittenAll.of_nil hc hv
      refine ⟨by rw [hns, Site.map_node_children, Node.eta], ?_⟩
      intro w hws
      rcases Site.mem_walk.mp hws with rfl | ⟨c, hc, hwc⟩
      · exact hp
      · exact hw c hc w hwc

theorem RewrittenAll.of_nil {p ss k ns vs} (h : RewrittenAll p ss k ns vs) (hv : vs = []) :
    ns = ss.map Site.node ∧ ∀ s ∈ ss, ∀ w ∈ s.walk, p w = false := by
  match h with
  | .nil => exact ⟨rfl, fun _ hs => by cases hs⟩
  | .cons h hs =>
      obtain ⟨hv, hws⟩ := List.append_eq_nil_iff.mp hv
      obtain ⟨hn, hw⟩ := Rewritten.of_nil h hv
      obtain ⟨hns, hw'⟩ := RewrittenAll.of_nil hs hws
      refine ⟨by rw [hn, hns, List.map_cons], ?_⟩
      intro s hs w hws
      rcases List.mem_cons.mp hs with rfl | hs
      · exact hw w hws
      · exact hw' s hs w hws
end

end Pass

theorem Node.hoist_eq_self_of_nil {t : Node} {accepts : String → Bool} {r : Resolver} (h : t.accepted accepts r = []) :
    (t.hoist accepts r).value = t := by
  obtain ⟨ns, hr, ho⟩ := t.hoist_eq accepts r
  rw [ho, (hr.of_nil h).1, h, Site.map_node_children]
  show Node.mk t.head (t.children ++ []) = t
  rw [List.append_nil, Node.eta]

/-- A pass changes nothing exactly when it takes nothing. -/
theorem Node.hoist_eq_self_iff {t : Node} {accepts : String → Bool} {r : Resolver} :
    (t.hoist accepts r).value = t ↔ ∀ s ∈ t.sites, Pass.taken accepts r s = false := by
  constructor
  · intro h
    obtain ⟨ns, hr, _⟩ := t.hoist_eq accepts r
    have hl := t.length_children_hoist accepts r
    rw [h] at hl
    have hnil : t.accepted accepts r = [] := List.length_eq_zero_iff.mp (by omega)
    intro s hs
    rcases Site.mem_walk.mp hs with rfl | ⟨c, hc, hsc⟩
    · exact Pass.not_taken_root accepts r t
    · exact (hr.of_nil hnil).2 c hc s hsc
  · intro h
    refine hoist_eq_self_of_nil (List.filter_eq_nil_iff.mpr fun s hs => ?_)
    rw [Pass.outermost, h s hs, Bool.false_and]
    exact Bool.false_ne_true

namespace Pass

/-! ## Images -/

/-- `s'` is the place, in the tree after a pass over `t`, of a site `s` of `t` that no taken site encloses. -/
inductive Image (accepts : String → Bool) (r : Resolver) (t : Node) : Site → Site → Prop
  | root : Image accepts r t (.root t) (.root (t.hoist accepts r).value)
  | child {s s' c c' : Site} {i : Nat} (h : Image accepts r t s s') (hs : taken accepts r s = false)
      (hc : s.children[i]? = some c) (hc' : s'.children[i]? = some c') : Image accepts r t c c'

variable {accepts : String → Bool} {r : Resolver} {t : Node} {s s' : Site}

theorem Image.node_cases (h : Image accepts r t s s') :
    s = .root t ∧ s' = .root (t.hoist accepts r).value ∨ Becomes accepts r s s'.node := by
  -- the root stands apart because declarations are appended to it
  induction h with
  | root => exact Or.inl ⟨rfl, rfl⟩
  | @child s s' c c' i h hs hc hc' ih =>
      refine Or.inr ?_
      have hn := Site.getElem?_node hc'
      rcases ih with ⟨rfl, rfl⟩ | hb
      · obtain ⟨ns, hns, _, hkept⟩ := t.children_hoist accepts r
        obtain ⟨n, hi, hcn⟩ := rel_getElem?_left hkept hc
        have he : (ns ++ declarationsOf ((t.accepted accepts r).map Site.node))[i]? = some c'.node := hns ▸ hn
        rw [List.getElem?_append_left (List.getElem?_eq_some_iff.mp hi).1, hi] at he
        cases he
        exact hcn.becomes
      · obtain ⟨n, hi, hcn⟩ := rel_getElem?_left (Kept.children_become ⟨hs, hb⟩).2 hc
        rw [hn] at hi
        cases hi
        exact hcn

theorem Image.child_becomes {c c' : Site} {i : Nat} (h : Image accepts r t s s') (hs : taken accepts r s = false)
    (hc : s.children[i]? = some c) (hc' : s'.children[i]? = some c') : Becomes accepts r c c'.node := by
  rcases (Image.child h hs hc hc').node_cases with ⟨rfl, _⟩ | hb
  · obtain ⟨_, htrail⟩ := Site.trail_of_child (List.mem_of_getElem? hc)
    cases htrail
  · exact hb

theorem Image.head (h : Image accepts r t s s') (hs : taken accepts r s = false) : s'.node.head = s.node.head := by
  rcases h.node_cases with ⟨rfl, rfl⟩ | hb
  · exact Node.head_hoist accepts r t
  · exact Kept.head ⟨hs, hb⟩

theorem Image.kind (h : Image accepts r t s s') (hs : taken accepts r s = false) : s'.kind = s.kind :=
  congrArg Head.kind (h.head hs)

/-- The sites around an image are the images of the sites around the original. -/
theorem Image.ancestors (h : Image accepts r t s s') :
    List.Forall₂ (fun a a' => Image accepts r t a a' ∧ taken accepts r a = false) s.ancestors s'.ancestors := by
  induction h with
  | root => exact .nil
  | child h hs hc hc' ih =>
      rw [Site.ancestors_of_child (List.mem_of_getElem? hc), Site.ancestors_of_child (List.mem_of_getElem? hc')]
      exact .cons ⟨h, hs⟩ ih

theorem Image.not_taken_around (h : Image accepts r t s s') : ∀ a ∈ s.ancestors, taken accepts r a = false := by
  intro a ha
  obtain ⟨i, hi⟩ := List.mem_iff_getElem?.mp ha
  obtain ⟨a', _, ha'⟩ := rel_getElem?_left h.ancestors hi
  exact ha'.2

theorem Image.insideFunction (h : Image accepts r t s s') : s'.insideFunction = s.insideFunction :=
  (rel_any h.ancestors fun a a' ha => by
    rw [Node.isFunction, Node.isFunction]
    exact congrArg (fun k => decide (k ∈ Kind.functions)) (ha.1.kind ha.2).symm).symm

theorem Image.attributeName? (hs : taken accepts r s = false) (hb : Becomes accepts r s s'.node)
    (hk : s.kind = Kind.markupAttribute) : s'.node.attributeName? = s.node.attributeName? := by
  have hsim := similarity_kept accepts r
  have hkept : KeptNode accepts r s.node s'.node := ⟨s, rfl, hs, hb⟩
  have hc := hsim.children hkept (by rw [show s.node.kind = _ from hk]; decide)
  symm
  apply Node.attributeName?_congr hc hsim.kind hsim.text
  exact fun hab hn => hsim.parts.map_text (hsim.children hab (by rw [hn]; decide))

/-! A filter that finds a value at a site finds it at the image, be it the filter of the pass or another. -/

section
variable {filter : String → Bool}

theorem Image.isAttributeValue (h : Image accepts r t s s') : s'.isAttributeValue filter = s.isAttributeValue filter := by
  unfold Site.isAttributeValue
  -- up to the element, which makes sure that the attribute is not the root
  cases h with
  | root => rfl
  | child h hs hc hc' =>
      rw [Site.ancestors_of_child (List.mem_of_getElem? hc), Site.ancestors_of_child (List.mem_of_getElem? hc')]
      have hbraces := h.kind hs
      cases h with
      | root => rfl
      | @child attr attr' _ _ _ h hs hc hc' =>
          rw [Site.ancestors_of_child (List.mem_of_getElem? hc), Site.ancestors_of_child (List.mem_of_getElem? hc')]
          have hattr := h.kind hs
          cases h with
          | root => rfl
          | child h hs' hc hc' =>
              rw [Site.ancestors_of_child (List.mem_of_getElem? hc), Site.ancestors_of_child (List.mem_of_getElem? hc')]
              simp only [hbraces, hattr, h.kind hs']
              by_cases hk : attr.kind = Kind.markupAttribute
              · rw [Image.attributeName? hs (h.child_becomes hs' hc hc') hk]
              · rw [beq_eq_false_iff_ne.mpr hk, Bool.and_false, Bool.false_and, Bool.false_and, Bool.false_and]

theorem Image.isBranchOfValue (h : Image accepts r t s s') (hs : taken accepts r s = false) :
    s'.isBranchOfValue filter = s.isBranchOfValue filter := by
  have hf : s'.node.field = s.node.field := congrArg Head.field (h.head hs)
  have ha := h.ancestors
  unfold Site.isBranchOfValue Site.parent?
  rw [hf]
  revert ha
  generalize s.ancestors = as, s'.ancestors = bs
  intro ha
  cases ha with
  | nil => rfl
  | cons hp _ =>
      rw [List.head?_cons, List.head?_cons, Option.any_some, Option.any_some, hp.1.kind hp.2, hp.1.isAttributeValue]

/-- A site that stays where it is stays a candidate or not. -/
theorem Image.isCandidate (h : Image accepts r t s s') (hs : taken accepts r s = false) :
    s'.isCandidate filter = s.isCandidate filter := by
  have hn : s'.node.named = s.node.named := congrArg Head.named (h.head hs)
  rw [Site.isCandidate, Site.isCandidate, hn, h.kind hs, h.isAttributeValue, h.isBranchOfValue hs]

end

/-- What a second pass takes at an image did not go in the first. -/
theorem Image.not_taken_of_taken (h : Image accepts r t s s') (h' : taken accepts r s' = true) :
    taken accepts r s = false := by
  cases hs : taken accepts r s with
  | false => rfl
  | true =>
      rcases h.node_cases with ⟨rfl, _⟩ | hb
      · rw [not_taken_root] at hs
        cases hs
      · obtain ⟨k, hn⟩ := hb.of_taken hs
        have hc := isCandidate_of_taken h'
        rw [Site.isCandidate, Site.kind, hn] at hc
        cases hc

/-! ## Ways down -/

theorem Image.follow (h : Image accepts r t s s') {path : List Nat} {w w' : Site} (hw : s.follow path = some w)
    (hw' : s'.follow path = some w') (ha : ∀ a ∈ w.ancestors, taken accepts r a = false) : Image accepts r t w w' := by
  induction path generalizing s s' with
  | nil => cases hw; cases hw'; exact h
  | cons i path ih =>
      obtain ⟨c, hc, hw⟩ := Site.follow_cons.mp hw
      obtain ⟨c', hc', hw'⟩ := Site.follow_cons.mp hw'
      have hs := ha s (Site.mem_ancestors_of_below (List.mem_of_getElem? hc) (Site.mem_walk_of_follow hw))
      exact ih (.child h hs hc hc') hw hw'

/-- A site and its image are reached by the same steps. -/
theorem Image.path (h : Image accepts r t s s') : ∃ path, (Site.root t).follow path = some s ∧
    (Site.root (t.hoist accepts r).value).follow path = some s' := by
  induction h with
  | root => exact ⟨[], rfl, rfl⟩
  | @child s s' c c' i h hs hc hc' ih =>
      obtain ⟨path, hp, hp'⟩ := ih
      refine ⟨path ++ [i], ?_, ?_⟩
      · rw [Site.follow_append, hp, Option.bind_some]
        exact Site.follow_cons.mpr ⟨c, hc, rfl⟩
      · rw [Site.follow_append, hp', Option.bind_some]
        exact Site.follow_cons.mpr ⟨c', hc', rfl⟩

/-- What lies below an image, the root apart, is an image. -/
theorem Image.of_mem_walk (h : Image accepts r t s s') (hb : Becomes accepts r s s'.node) {w' : Site} (hw : w' ∈ s'.walk) :
    ∃ w, Image accepts r t w w' := by
  induction s' using Site.induction_on generalizing s with
  | step s' ih =>
      rcases Site.mem_walk.mp hw with rfl | ⟨c', hc', hw⟩
      · exact ⟨s, h⟩
      · obtain ⟨i, hi'⟩ := List.mem_iff_getElem?.mp hc'
        have hn := Site.getElem?_node hi'
        cases hs : taken accepts r s with
        | true =>
            obtain ⟨k, he⟩ := hb.of_taken hs
            rw [he] at hn
            cases hn
        | false =>
            obtain ⟨c, hi, hcn⟩ := rel_getElem? (Kept.children_become ⟨hs, hb⟩).2 hn
            exact ih c' hc' (.child h hs hi hi') hcn hw

end Pass

/-! ## References -/

namespace Pass

mutual
/-- The value that is taken after `i` others leaves a reference to its name at its place. -/
theorem Rewritten.reference {p s k n vs} (h : Rewritten p s k n vs) {i : Nat} {v : Site} (hi : vs[i]? = some v) :
    ∃ path, s.follow path = some v ∧ ∀ s' : Site, s'.node = n → ∃ v', s'.follow path = some v' ∧
      v'.node = .identifier (generatedName (k + i)) v.node.leading v.node.field := by
  match h with
  | .taken _ =>
      cases i with
      | zero =>
          cases hi
          exact ⟨[], rfl, fun s' hn => ⟨s', rfl, hn⟩⟩
      | succ i => cases hi
  | .kept _ hc =>
      obtain ⟨j, c, m, hj, hm, path, hp, hv⟩ := RewrittenAll.reference hc hi
      refine ⟨j :: path, Site.follow_cons.mpr ⟨c, hj, hp⟩, ?_⟩
      intro s' hn
      obtain ⟨v', hp', hv'⟩ := hv (s'.descend m j) rfl
      refine ⟨v', Site.follow_cons.mpr ⟨_, ?_, hp'⟩, hv'⟩
      rw [Site.getElem?_children, hn, Node.children_mk, hm, Option.map_some]

theorem RewrittenAll.reference {p ss k ns vs} (h : RewrittenAll p ss k ns vs) {i : Nat} {v : Site}
    (hi : vs[i]? = some v) :
    ∃ (j : Nat) (c : Site) (m : Node), ss[j]? = some c ∧ ns[j]? = some m ∧
      ∃ path, c.follow path = some v ∧ ∀ s' : Site, s'.node = m → ∃ v', s'.follow path = some v' ∧
        v'.node = .identifier (generatedName (k + i)) v.node.leading v.node.field := by
  match h with
  | .nil => cases hi
  | @RewrittenAll.cons _ s _ _ n _ vs _ h hs =>
      by_cases hlt : i < vs.length
      · rw [List.getElem?_append_left hlt] at hi
        exact ⟨0, s, n, rfl, rfl, Rewritten.reference h hi⟩
      · rw [List.getElem?_append_right (by omega)] at hi
        obtain ⟨j, c, m, hj, hm, hv⟩ := RewrittenAll.reference hs hi
        rw [show k + vs.length + (i - vs.length) = k + i by omega] at hv
        exact ⟨j + 1, c, m, hj, hm, hv⟩
end

end Pass

theorem Node.reference_hoist {t : Node} {accepts : String → Bool} {r : Resolver} {i : Nat} {v : Site}
    (h : (t.accepted accepts r)[i]? = some v) :
    ∃ path v', (Site.root t).follow path = some v ∧ (Site.root (t.hoist accepts r).value).follow path = some v' ∧
      v'.node = .identifier (generatedName i) v.node.leading v.node.field := by
  obtain ⟨ns, hr, ho⟩ := t.hoist_eq accepts r
  obtain ⟨j, c, m, hj, hm, path, hp, hv⟩ := hr.reference h
  rw [Nat.zero_add] at hv
  obtain ⟨v', hp', hv'⟩ := hv ((Site.root (t.hoist accepts r).value).descend m j) rfl
  refine ⟨j :: path, v', Site.follow_cons.mpr ⟨c, hj, hp⟩, Site.follow_cons.mpr ⟨_, ?_, hp'⟩, hv'⟩
  have hn : (t.hoist accepts r).value.children[j]? = some m := by
    rw [ho, children_mk, List.getElem?_append_left (List.getElem?_eq_some_iff.mp hm).1, hm]
  rw [Site.getElem?_children]
  exact congrArg (Option.map _) hn

/-! ## Candidates in moved values -/

/-- Kinds of nodes that make a candidate of something below them. -/
def Kind.carriers : List Kind := [markupContainer, markupAttribute, ternary] ++ invocations

namespace Site
variable {accepts : String → Bool} {s t w v : Site}

/-- Only constants are accepted, and no constant carries attribute values by itself. -/
theorem not_carrier_of_constant {r : Resolver} (h : (r.constant s).value = true) : s.kind ∉ Kind.carriers := by
  intro hk
  have hnot : ∀ k ∈ Kind.carriers, k ∉ Kind.literals ∧ k ≠ Kind.object ∧ k ≠ Kind.templateString ∧ k ≠ Kind.binary ∧
      k ≠ Kind.identifier ∧ k ∉ Kind.functionExpressions := by decide
  obtain ⟨h1, h2, h3, h4, h5, h6⟩ := hnot s.kind hk
  rw [Resolver.value_constant, requirements, if_neg h1, if_neg h2, if_neg h3, if_neg h4, if_neg h5, if_neg h6] at h
  cases h

theorem isAttributeValue_iff : s.isAttributeValue accepts = true ↔ ∃ braces attr element rest,
    s.ancestors = braces :: attr :: element :: rest ∧ braces.kind = Kind.markupContainer ∧
      attr.kind = Kind.markupAttribute ∧ element.kind ∈ Kind.invocations ∧
      attr.node.attributeName?.any accepts = true := by
  unfold isAttributeValue
  constructor
  · intro h
    split at h
    · next braces attr element rest ha =>
        simp only [Bool.and_eq_true, beq_iff_eq, decide_eq_true_eq] at h
        exact ⟨braces, attr, element, rest, ha, h.1.1.1, h.1.1.2, h.1.2, h.2⟩
    · cases h
  · rintro ⟨braces, attr, element, rest, ha, hb, hattr, he, hn⟩
    rw [ha]
    simp only [Bool.and_eq_true, beq_iff_eq, decide_eq_true_eq]
    exact ⟨⟨⟨hb, hattr⟩, he⟩, hn⟩

theorem isBranchOfValue_iff : s.isBranchOfValue accepts = true ↔ ∃ p, s.parent? = some p ∧ p.kind = Kind.ternary ∧
    (s.node.field = some "consequence" ∨ s.node.field = some "alternative") ∧ p.isAttributeValue accepts = true := by
  rw [isBranchOfValue, Option.any_eq_true]
  simp only [Bool.and_eq_true, Bool.or_eq_true, beq_iff_eq, and_assoc]

section
variable (hs : s.node.Alike t.node) (hk : s.kind ∉ Kind.carriers)
include hs hk

/-- Below a value that carries nothing itself, what is the value of an attribute is one in every copy. -/
theorem ParallelBelow.isAttributeValue (h : ParallelBelow s t w v) (hw : w.isAttributeValue accepts = true) :
    v.isAttributeValue accepts = true := by
  obtain ⟨braces, attr, element, rest, ha, hb, hattr, he, hn⟩ := isAttributeValue_iff.mp hw
  -- the braces and the attribute cannot be the copied value itself, so both are copied with it
  cases h with
  | step h _ =>
      cases h with
      | here =>
          rw [ancestors_descend] at ha
          obtain ⟨rfl, _⟩ := List.cons.inj ha
          exact absurd (by rw [hb]; decide) hk
      | step h _ =>
          cases h with
          | here =>
              rw [ancestors_descend, ancestors_descend] at ha
              obtain ⟨rfl, _⟩ := List.cons.inj (List.cons.inj ha).2
              exact absurd (by rw [hattr]; decide) hk
          | step h _ =>
              cases ha
              refine isAttributeValue_iff.mpr ⟨_, _, _, _, rfl, hb, hattr, ?_, hn⟩
              rw [kind, ← (h.alike hs).kind]
              exact he

theorem ParallelBelow.isBranchOfValue (h : ParallelBelow s t w v) (hw : w.isBranchOfValue accepts = true) :
    v.isBranchOfValue accepts = true := by
  obtain ⟨p, hp, hkind, hf, hv⟩ := isBranchOfValue_iff.mp hw
  cases h with
  | step h _ =>
      cases hp
      cases h with
      | here => exact absurd (by rw [hkind]; decide) hk
      | step h hn =>
          have hbelow : ParallelBelow s t _ _ := .step h hn
          exact isBranchOfValue_iff.mpr ⟨_, rfl, hkind, hf, hbelow.isAttributeValue hs hk hv⟩

theorem ParallelBelow.isCandidate_of (h : ParallelBelow s t w v) (hw : w.isCandidate accepts = true) :
    v.isCandidate accepts = true := by
  rw [isCandidate, Bool.and_eq_true, Bool.or_eq_true] at hw
  rw [isCandidate, Bool.and_eq_true, Bool.or_eq_true, kind, ← h.node_eq]
  exact ⟨hw.1, hw.2.imp (h.isAttributeValue hs hk) (h.isBranchOfValue hs hk)⟩

end

theorem ParallelBelow.symm (hs : s.node.Alike t.node) (h : ParallelBelow s t w v) : ParallelBelow t s v w := by
  cases h with
  | step h hn => exact .step (h.symm hs) (by rw [← (h.alike hs).children, hn])

/-- Below a value that carries nothing itself, the copies of candidates are the candidates of the copy. -/
theorem ParallelBelow.isCandidate (hs : s.node.Alike t.node) (hk : s.kind ∉ Kind.carriers)
    (h : ParallelBelow s t w v) : v.isCandidate accepts = w.isCandidate accepts := by
  have hk' : t.kind ∉ Kind.carriers := by rw [kind, ← hs.kind]; exact hk
  exact Bool.eq_iff_iff.mpr ⟨(h.symm hs).isCandidate_of hs.symm hk', h.isCandidate_of hs hk⟩

/-- In a declaration of a module, only the functions of the value itself lie around its parts. -/
theorem Parallel.insideFunction_ofValue {out : Node} (ho : out.isFunction = false) {j i : Nat}
    (h : Parallel v (.ofValue out j i v.node) w s) :
    s.insideFunction = true ↔ ∃ a ∈ w.ancestors, a ∈ v.walk ∧ a.node.isFunction = true := by
  have halike : v.node.Alike (ofValue out j i v.node).node := alike_asValue v.node
  obtain ⟨q, q', hq, hq', hqq⟩ := h.ancestors halike
  have hout : (ofValue out j i v.node).ancestors.any (·.node.isFunction) = false := by
    have hd : (declaratorOf i v.node).isFunction = false :=
      show decide (Kind.declarator ∈ Kind.functions) = false by decide
    have hl : (declarationOf i v.node).isFunction = false := by
      rw [declarationOf_eq]
      show decide (Kind.lexicalDeclaration ∈ Kind.functions) = false
      decide
    rw [show (ofValue out j i v.node).ancestors =
      [((root out).descend (declarationOf i v.node) j).descend (declaratorOf i v.node) 1,
        (root out).descend (declarationOf i v.node) j, root out] from rfl]
    simp only [List.any_cons, List.any_nil, descend, root, hd, hl, ho, Bool.or_false]
  rw [insideFunction, hq', List.any_append, hout, Bool.or_false,
    ← rel_any hqq fun a b hab => hab.isFunction, List.any_eq_true]
  obtain ⟨p, hp, hpv⟩ := ancestors_split h.mem_walk
  cases List.append_cancel_right (hq.symm.trans hp)
  constructor
  · rintro ⟨a, ha, hf⟩
    exact ⟨a, by rw [hq]; exact List.mem_append_left _ ha, hpv a ha, hf⟩
  · rintro ⟨a, ha, hav, hf⟩
    rw [hq] at ha
    rcases List.mem_append.mp ha with ha | ha
    · exact ⟨a, ha, hf⟩
    · have hlt := length_lt_of_ancestor ha
      have hle := length_le_of_mem_walk hav
      omega

end Site

/-! ## The sites of the result -/

namespace Pass
variable {accepts : String → Bool} {r : Resolver} {t : Node} {s' : Site}

/-- What a pass takes in a declaration lies below its value. -/
theorem taken_in_declaration {out v : Node} {j i : Nat} (hd : out.children[j]? = some (declarationOf i v))
    (hw : s' ∈ ((Site.root out).descend (declarationOf i v) j).walk) (ht : taken accepts r s' = true) :
    ∃ c ∈ (Site.ofValue out j i v).children, s' ∈ c.walk := by
  -- a child of a node that holds no attribute values is not taken, so the search goes on below it
  have hstep : ∀ {s c : Site}, c ∈ s.children → s.kind ∉ Kind.holders → s' ∈ c.walk → ∃ e ∈ c.children, s' ∈ e.walk := by
    intro s c hc hk hw
    rcases Site.mem_walk.mp hw with rfl | hw
    · rw [not_taken_of_child hc hk] at ht
      cases ht
    · exact hw
  have hdecl : (Site.root out).descend (declarationOf i v) j ∈ (Site.root out).children :=
    Site.mem_children.mpr ⟨j, _, hd, rfl⟩
  have hkind : ((Site.root out).descend (declarationOf i v) j).kind ∉ Kind.holders := by
    rw [Site.kind, Site.descend, declarationOf_eq]
    show Kind.lexicalDeclaration ∉ Kind.holders
    decide
  rcases Site.mem_walk.mp hw with rfl | ⟨d, hd, hwd⟩
  · rw [not_taken_statement hdecl] at ht
    cases ht
  obtain ⟨e, he, hwe⟩ := hstep hd hkind hwd
  obtain ⟨k, n, hn, rfl⟩ := Site.mem_children.mp hd
  rw [Site.descend, declarationOf_eq] at hn
  -- the keyword and the semicolon have nothing below them, nor have the name and the equals sign in the declarator
  rcases k with _ | _ | _ | k
  · cases hn; cases he
  · cases hn
    obtain ⟨g, hg, hwg⟩ := hstep he (show Kind.declarator ∉ Kind.holders by decide) hwe
    obtain ⟨k, n, hn, rfl⟩ := Site.mem_children.mp he
    rcases k with _ | _ | _ | k
    · cases hn; cases hg
    · cases hn; cases hg
    · cases hn; exact ⟨g, hg, hwg⟩
    · cases hn
  · cases hn; cases he
  · cases hn

/-- What a second pass takes is an image or lies in the value of an appended declaration. -/
theorem taken_origin (hs : s' ∈ (t.hoist accepts r).value.sites) (ht : taken accepts r s' = true) :
    (∃ s, Image accepts r t s s') ∨ ∃ i v, (t.accepted accepts r)[i]? = some v ∧
      ∃ c ∈ (Site.ofValue (t.hoist accepts r).value (t.children.length + i) i v.node).children, s' ∈ c.walk := by
  rcases Site.mem_walk.mp hs with rfl | ⟨c', hc', hw⟩
  · exact Or.inl ⟨_, .root⟩
  obtain ⟨j, hj⟩ := List.mem_iff_getElem?.mp hc'
  by_cases hlt : j < t.children.length
  · refine Or.inl ?_
    have hc : (Site.root t).children[j]? = some ((Site.root t).descend (t.children.get ⟨j, hlt⟩) j) := by
      rw [Site.getElem?_children]
      exact congrArg (Option.map _) (List.getElem?_eq_getElem hlt)
    have hroot := not_taken_root accepts r t
    exact (Image.child .root hroot hc hj).of_mem_walk (Image.root.child_becomes hroot hc hj) hw
  · refine Or.inr ?_
    obtain ⟨ns, hns, hl, _⟩ := t.children_hoist accepts r
    have hn : (t.hoist accepts r).value.children[j]? = some c'.node := Site.getElem?_node hj
    have hd := hn
    rw [hns, List.getElem?_append_right (by omega), getElem?_declarationsOf, List.getElem?_map,
      Option.map_map, Option.map_eq_some_iff, hl] at hd
    obtain ⟨v, hv, he⟩ := hd
    have hji : t.children.length + (j - t.children.length) = j := by omega
    refine ⟨j - t.children.length, v, hv, ?_⟩
    rw [hji]
    rw [← he] at hn
    refine taken_in_declaration hn ?_ ht
    rw [Site.getElem?_children] at hj
    rw [show (Site.root (t.hoist accepts r).value).node.children[j]? = _ from hn] at hj
    cases hj
    exact hw

end Pass

end AttrHoist
