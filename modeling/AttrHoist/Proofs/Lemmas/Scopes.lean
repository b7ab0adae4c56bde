import AttrHoist.Proofs.Lemmas.Images

/-!
# Scopes after a pass

Names are texts of the tree, so no scope of a tree without generated names binds one. A scope that a pass leaves at
its place decides names as before, and the appended declarations bind generated names and nothing else.
-/

namespace AttrHoist

/-! ## Names are texts -/

namespace Node.Fresh
variable {n c : Node} {name field : String}

theorem child? (h : n.Fresh) (hc : n.child? field = some c) : c.Fresh :=
  h.child (mem_of_child? hc)

theorem namedChild (h : n.Fresh) (hc : c ∈ n.namedChildren) : c.Fresh :=
  h.child (mem_of_namedChildren hc)

theorem patternNames (h : n.Fresh) (hm : name ∈ n.patternNames) : hasStem name = false := by
  induction n using Node.induction_on with
  | step n ih =>
      rw [patternNames_eq] at hm
      split at hm
      · rw [List.mem_singleton.mp hm]
        exact h.text
      · obtain ⟨p, hp, hm⟩ := List.mem_flatMap.mp hm
        have hp := mem_of_patternParts hp
        exact ih p hp (h.child hp) hm

theorem namesIn (h : n.Fresh) (hm : name ∈ n.namesIn field) : hasStem name = false := by
  obtain ⟨c, hc, hm⟩ := List.mem_flatMap.mp hm
  exact (h.child? (Option.mem_toList.mp hc)).patternNames hm

theorem parameterNames (h : n.Fresh) (hm : name ∈ n.parameterNames) : hasStem name = false := by
  obtain ⟨c, hc, hm⟩ := List.mem_flatMap.mp hm
  rcases Option.or_eq_some_iff.mp (Option.mem_toList.mp hc) with hc | ⟨_, hc⟩
  · exact (h.child? hc).patternNames hm
  · exact (h.child? hc).patternNames hm

theorem isCalled (h : n.Fresh) (hc : n.isCalled name = true) : hasStem name = false := by
  obtain ⟨c, hc, he⟩ := (Option.any_eq_true _ _).mp hc
  rw [← beq_iff_eq.mp he]
  exact (h.child? hc).text

theorem specifierName? (h : n.Fresh) (hm : n.specifierName? = some name) : hasStem name = false := by
  obtain ⟨c, hc, rfl⟩ := Option.map_eq_some_iff.mp hm
  rcases Option.or_eq_some_iff.mp hc with hc | ⟨_, hc⟩
  · exact (h.child? hc).text
  · exact (h.child? hc).text

theorem importPartNames (h : n.Fresh) (hm : name ∈ n.importPartNames) : hasStem name = false := by
  unfold Node.importPartNames at hm
  split at hm
  · rw [List.mem_singleton.mp hm]
    exact h.text
  split at hm
  · obtain ⟨c, hc, rfl⟩ := List.mem_map.mp hm
    exact (h.namedChild (List.mem_filter.mp hc).1).text
  split at hm
  · obtain ⟨c, hc, hm⟩ := List.mem_filterMap.mp hm
    exact (h.namedChild (List.mem_filter.mp hc).1).specifierName? hm
  · cases hm

theorem importNames (h : n.Fresh) (hm : name ∈ n.importNames) : hasStem name = false := by
  obtain ⟨clause, hc, hm⟩ := List.mem_flatMap.mp hm
  obtain ⟨part, hp, hm⟩ := List.mem_flatMap.mp hm
  exact ((h.namedChild (List.mem_filter.mp hc).1).namedChild hp).importPartNames hm

theorem declaratorNames (h : n.Fresh) (hm : name ∈ n.declaratorNames) : hasStem name = false := by
  obtain ⟨d, hd, hm⟩ := List.mem_flatMap.mp hm
  exact (h.namedChild (List.mem_filter.mp hd).1).namesIn hm

theorem ownNames (h : n.Fresh) (hm : name ∈ n.ownNames) : hasStem name = false := by
  unfold Node.ownNames at hm
  split at hm
  · exact h.namesIn hm
  split at hm
  · obtain ⟨c, hc, rfl⟩ := List.mem_map.mp hm
    exact (h.child? (Option.mem_toList.mp hc)).text
  split at hm
  · exact h.namesIn hm
  split at hm
  · exact h.namesIn hm
  · cases hm

theorem declaredNames (h : n.Fresh) (hm : name ∈ n.declaredNames) : hasStem name = false := by
  induction n using Node.induction_on with
  | step n ih =>
      rw [declaredNames_eq, List.mem_append] at hm
      rcases hm with hm | hm
      · exact h.ownNames hm
      split at hm
      · cases hm
      · obtain ⟨c, hc, hm⟩ := List.mem_flatMap.mp hm
        exact ih c hc (h.child hc) hm

/-! ## No scope binds a generated name -/

theorem functionBinding? (h : n.Fresh) (hs : hasStem name = true) : n.functionBinding? name = none := by
  have hne : hasStem name ≠ false := by rw [hs]; exact Bool.noConfusion
  unfold Node.functionBinding?
  rw [if_neg fun hm => hne (h.parameterNames hm), if_neg fun hm => hne (h.isCalled hm.2), if_neg]
  intro hm
  obtain ⟨body, hb, hm⟩ := (Option.any_eq_true _ _).mp hm
  exact hne ((h.child? hb).declaredNames (of_decide_eq_true hm))

theorem statementBinding? (h : n.Fresh) (hs : hasStem name = true) : n.statementBinding? name = none := by
  have hne : hasStem name ≠ false := by rw [hs]; exact Bool.noConfusion
  unfold Node.statementBinding?
  split
  · exact if_neg fun hm => hne (h.importNames hm)
  split
  · exact if_neg fun hm => hne (h.declaratorNames hm)
  split
  · exact if_neg fun hm => hne (h.isCalled hm)
  · exact if_neg fun hm => hne (h.declaredNames hm)

theorem exported? (h : n.Fresh) (hc : n.exported? = some c) : c.Fresh := by
  unfold Node.exported? at hc
  split at hc
  · exact h.child? hc
  · cases hc
    exact h

theorem firstBinding? {ns : List Node} (h : ∀ n ∈ ns, n.Fresh) (hs : hasStem name = true) :
    AttrHoist.firstBinding? ns name = none := by
  rw [AttrHoist.firstBinding?, List.findSome?_eq_none_iff]
  intro d hd
  obtain ⟨n, hn, hd⟩ := List.mem_filterMap.mp hd
  exact ((h n hn).exported? hd).statementBinding? hs

theorem scopeBinding? (h : n.Fresh) (hk : n.kind ≠ Kind.program) (hs : hasStem name = true) :
    n.scopeBinding? name = none := by
  unfold Node.scopeBinding?
  split
  · exact h.functionBinding? hs
  split
  · refine if_neg fun hm => ?_
    rw [h.declaredNames hm] at hs
    cases hs
  · rfl

end Node.Fresh

/-! ## Declarations of generated names -/

theorem declaratorNames_declarationOf (i : Nat) (v : Node) :
    (declarationOf i v).declaratorNames = [generatedName i] := by
  rw [declarationOf_eq]
  show (declaratorOf i v).namesIn "name" ++ [] = _
  rw [List.append_nil]
  show Node.patternNames (.identifier (generatedName i) " " (some "name")) ++ [] = _
  rw [List.append_nil, Node.patternNames_eq]
  rfl

theorem statementBinding?_declarationOf (i : Nat) (v : Node) (name : String) :
    (declarationOf i v).statementBinding? name = if name = generatedName i then some .moduleConstant else none := by
  show (if name ∈ (declarationOf i v).declaratorNames then some _ else none) = _
  simp only [declaratorNames_declarationOf, List.mem_singleton]
  rfl

theorem filterMap_exported?_declarationsOf (vs : List Node) :
    (declarationsOf vs).filterMap Node.exported? = declarationsOf vs := by
  rw [declarationsOf, List.filterMap_map, ← List.filterMap_eq_map]
  rfl

theorem firstBinding?_declarationsOf (vs : List Node) {name : String} (h : hasStem name = false) :
    firstBinding? (declarationsOf vs) name = none := by
  rw [firstBinding?, filterMap_exported?_declarationsOf, List.findSome?_eq_none_iff]
  intro d hd
  obtain ⟨p, _, rfl⟩ := List.mem_map.mp hd
  rw [statementBinding?_declarationOf, if_neg]
  rintro rfl
  rw [hasStem_generatedName] at h
  cases h

/-- A search in which only one answer can come up finds it if some item gives it. -/
theorem findSome?_eq_of_unique {α β : Type} {f : α → Option β} {as : List α} {a : α} {b : β} (ha : a ∈ as)
    (hb : f a = some b) (hone : ∀ a ∈ as, ∀ d, f a = some d → d = b) : as.findSome? f = some b := by
  cases h : as.findSome? f with
  | none =>
      rw [List.findSome?_eq_none_iff.mp h a ha] at hb
      cases hb
  | some d =>
      obtain ⟨e, he, hd⟩ := List.exists_of_findSome?_eq_some h
      rw [hone e he d hd]

theorem firstBinding?_generatedName (vs : List Node) {i : Nat} (h : i < vs.length) :
    firstBinding? (declarationsOf vs) (generatedName i) = some .moduleConstant := by
  have hd : (declarationsOf vs)[i]? = some (declarationOf i (vs.get ⟨i, h⟩)) := by
    rw [getElem?_declarationsOf, List.getElem?_eq_getElem h]
    rfl
  rw [firstBinding?, filterMap_exported?_declarationsOf]
  refine findSome?_eq_of_unique (List.mem_of_getElem? hd) ?_ ?_
  · rw [statementBinding?_declarationOf, if_pos rfl]
  · intro e he d hde
    obtain ⟨p, _, rfl⟩ := List.mem_map.mp he
    rw [statementBinding?_declarationOf] at hde
    split at hde
    · exact (Option.some.inj hde).symm
    · cases hde

variable {accepts : String → Bool} {r : Resolver} {t : Node} {s s' : Site}

/-! ## Scopes that stay -/

namespace Pass

/-- Sites of `t` that no taken site encloses. -/
def InPlace (accepts : String → Bool) (r : Resolver) (t : Node) (s : Site) : Prop :=
  s ∈ t.sites ∧ ∀ a ∈ s.ancestors, taken accepts r a = false

theorem InPlace.child (h : InPlace accepts r t s) (hs : taken accepts r s = false) {c : Site} (hc : c ∈ s.children) :
    InPlace accepts r t c := by
  refine ⟨Site.mem_walk_trans h.1 (Site.child_mem_walk hc), ?_⟩
  rw [Site.ancestors_of_child hc]
  intro a ha
  rcases List.mem_cons.mp ha with rfl | ha
  · exact hs
  · exact h.2 a ha

theorem undeclared_inPlace (hnames : ∀ v ∈ t.accepted accepts r, v.node.declaredNames = []) :
    Undeclared accepts r (InPlace accepts r t) where
  taken h ht := hnames _ (Node.mem_accepted.mpr ⟨h.1, ht, h.2⟩)
  child h hs _ hc := h.child hs hc

theorem Image.inPlace (h : Image accepts r t s s') : InPlace accepts r t s := by
  obtain ⟨path, hp, _⟩ := h.path
  exact ⟨Site.mem_walk_of_follow hp, h.not_taken_around⟩

theorem InPlace.keptWhere_children (h : InPlace accepts r t s) {n : Node} (hkept : Kept accepts r s n)
    (hk : s.kind ∉ Kind.holders) :
    List.Forall₂ (KeptWhere accepts r (InPlace accepts r t)) s.node.children n.children := by
  rw [← Site.map_node_children]
  exact keptWhere_of_kept (fun c hc => h.child hkept.notTaken hc) (hkept.children hk)

section
variable (hnames : ∀ v ∈ t.accepted accepts r, v.node.declaredNames = [])
include hnames

theorem InPlace.scopeBinding? (h : InPlace accepts r t s) {n : Node} (hkept : Kept accepts r s n) (name : String) :
    n.scopeBinding? name = s.node.scopeBinding? name := by
  have hsim := similarity_kept accepts r
  have hP := undeclared_inPlace hnames
  symm
  apply hsim.parts.scopeBinding? hP.sameNames ⟨s, rfl, h, hkept⟩
  · intro hf
    have hc := h.keptWhere_children hkept (Kind.not_holder (of_decide_eq_true hf) (by decide))
    exact rel_find? hc fun a b hab => by rw [hsim.field (hP.sameNames.similar hab)]
  · intro hp
    exact hP.keptWhere_named (h.keptWhere_children hkept (by rw [Site.kind, hp]; decide))

end

/-- If the accepted values declare no names, every scope decides names in the same way after the pass, those that the
pass made apart. -/
theorem Image.scopeBinding? (ht : t.kind = Kind.program)
    (hnames : ∀ v ∈ t.accepted accepts r, v.node.declaredNames = []) (h : Image accepts r t s s')
    (hs : taken accepts r s = false) {name : String} (hname : hasStem name = false) :
    s'.node.scopeBinding? name = s.node.scopeBinding? name := by
  rcases h.node_cases with ⟨rfl, rfl⟩ | hb
  · -- the root gains declarations, but they bind generated names only
    have hf : t.isFunction = false := by rw [Node.isFunction, ht]; decide
    have hm : (t.hoist accepts r).value.moduleBinding name = t.moduleBinding name := by
      rw [Node.moduleBinding_hoist accepts r hf, firstBinding?_declarationsOf _ hname, Option.or_none,
        Node.moduleBinding_eq]
    calc (t.hoist accepts r).value.scopeBinding? name
        = some ((t.hoist accepts r).value.moduleBinding name) := Node.scopeBinding?_program ((h.kind hs).trans ht) name
      _ = some (t.moduleBinding name) := by rw [hm]
      _ = t.scopeBinding? name := (Node.scopeBinding?_program ht name).symm
  · exact h.inPlace.scopeBinding? hnames ⟨hs, hb⟩ name

end Pass

end AttrHoist
