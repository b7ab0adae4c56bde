import AttrHoist.Proofs.Lemmas.Scopes

/-!
# A second pass

A second pass over the result of a first changes nothing, unless a value that stayed has become constant or a moved
function holds attribute values that are constant at its new place. Both happen: `Sample.nested` shows the second.
-/

namespace AttrHoist

variable {accepts : String → Bool} {r : Resolver} {t : Node} {s s' : Site}

namespace Pass

/-! ## Values that stay -/

/-- A site below which nothing is accepted keeps its tree. -/
theorem Image.node_eq (h : Image accepts r t s s') (hb : Becomes accepts r s s'.node)
    (hno : ∀ v ∈ t.accepted accepts r, v ∉ s.walk) : s'.node = s.node := by
  obtain ⟨k, vs, hr⟩ := hb
  refine (hr.of_nil ?_).1
  rw [hr.sites_eq h.not_taken_around, List.filter_eq_nil_iff]
  intro w hw ho
  refine hno w (List.mem_filter.mpr ⟨?_, ho⟩) hw
  exact Site.mem_walk_trans h.inPlace.1 hw

/-- An identifier below such a site refers to what it referred to before. -/
theorem Image.resolve (hr : r.BuiltIn) (ht : t.kind = Kind.program) (hfresh : t.Fresh)
    (hnames : ∀ v ∈ t.accepted accepts r, v.node.declaredNames = []) (h : Image accepts r t s s')
    (hn : s'.node = s.node) {i i' : Site} (hi : Site.Parallel s s' i i') :
    (r.resolve i').value = (r.resolve i).value := by
  have halike : s.node.Alike s'.node := hn ▸ .refl _
  have htext : i'.text = i.text := (hi.alike halike).text.symm
  have hstem : hasStem i.text = false :=
    hfresh i.node (Site.node_mem_walk (Site.mem_walk_trans h.inPlace.1 hi.mem_walk))
  cases hr with
  | table entries => simp only [Resolver.resolve_table, htext]
  | lexical =>
      have hscopes := h.ancestors.imp fun a a' ha => (ha.1.scopeBinding? ht hnames ha.2 hstem).symm
      exact congrArg Traced.value (hi.lexicalDeclaration halike hscopes)

/-- If the accepted values declare no names, a site below which nothing is accepted is not constant after the pass
unless it was before. -/
theorem Image.constant (hr : r.BuiltIn) (ht : t.kind = Kind.program) (hfresh : t.Fresh)
    (hnames : ∀ v ∈ t.accepted accepts r, v.node.declaredNames = []) (h : Image accepts r t s s')
    (hb : Becomes accepts r s s'.node) (hno : ∀ v ∈ t.accepted accepts r, v ∉ s.walk)
    (hc : (r.constant s').value = true) : (r.constant s).value = true := by
  have hn := h.node_eq hb hno
  have halike : s.node.Alike s'.node := hn ▸ .refl _
  refine Resolver.constant_of_parallel halike.symm ?_ .here hc
  intro i' i hi hfix
  rw [Resolver.value_fixed] at hfix ⊢
  rw [← h.resolve hr ht hfresh hnames hn (hi.symm halike.symm)]
  exact hfix

/-! ## What a second pass finds -/

/-- A candidate inside a function that a pass over `t` leaves at its place, and that is constant there afterwards. It
holds an accepted value, or accepted values took declarations of names with them. -/
structure Revived (accepts : String → Bool) (r : Resolver) (t : Node) (s s' : Site) : Prop where
  place : ∃ path, (Site.root t).follow path = some s ∧ (Site.root (t.hoist accepts r).value).follow path = some s'
  candidate : s.isCandidate accepts = true
  inside : s.insideFunction = true
  stays : taken accepts r s = false
  staysAround : ∀ a ∈ s.ancestors, taken accepts r a = false
  disturbed : (∃ v ∈ t.accepted accepts r, v ∈ s.walk) ∨ ∃ v ∈ t.accepted accepts r, v.node.declaredNames ≠ []
  constant : (r.constant s').value = true

/-- A candidate inside a function of an accepted value that is constant where the value is moved to. -/
structure Carried (accepts : String → Bool) (r : Resolver) (t : Node) (v w w' : Site) : Prop where
  place : ∃ i path, (t.accepted accepts r)[i]? = some v ∧ path ≠ [] ∧ v.follow path = some w ∧
    (Site.root (t.hoist accepts r).value).follow ((t.children.length + i) :: 1 :: 2 :: path) = some w'
  candidate : w.isCandidate accepts = true
  inside : ∃ f ∈ w.ancestors, f ∈ v.walk ∧ f.node.isFunction = true
  constant : (r.constant w').value = true

theorem Revived.taken (h : Revived accepts r t s s') :
    s' ∈ (t.hoist accepts r).value.sites ∧ taken accepts r s' = true := by
  obtain ⟨path, hp, hp'⟩ := h.place
  have himage : Image accepts r t s s' := Image.root.follow hp hp' h.staysAround
  refine ⟨Site.mem_walk_of_follow hp', ?_⟩
  rw [taken_eq, himage.isCandidate h.stays, himage.insideFunction, h.candidate, h.inside, h.constant]
  rfl

theorem isFunction_hoist (ht : t.kind = Kind.program) : (t.hoist accepts r).value.isFunction = false := by
  rw [Node.isFunction, Node.kind, Node.head_hoist, ← Node.kind, ht]
  decide

theorem Carried.taken (ht : t.kind = Kind.program) {v w w' : Site} (h : Carried accepts r t v w w') :
    w' ∈ (t.hoist accepts r).value.sites ∧ taken accepts r w' = true := by
  obtain ⟨i, path, hi, hne, hw, hw'⟩ := h.place
  have halike := alike_asValue v.node
  have hv := List.mem_of_getElem? hi
  refine ⟨Site.mem_walk_of_follow hw', ?_⟩
  rw [follow_ofValue (Node.declaration_hoist hi)] at hw'
  obtain ⟨y, hy, hwy⟩ := Site.ParallelBelow.of_follow
    (t := .ofValue (t.hoist accepts r).value (t.children.length + i) i v.node) halike hne hw
  cases hw'.symm.trans hy
  have hin := (hwy.parallel.insideFunction_ofValue (isFunction_hoist ht)).mpr h.inside
  rw [taken_eq, hwy.isCandidate halike (Site.not_carrier_of_constant (Node.constant_of_accepted hv)), h.candidate, hin,
    h.constant]
  rfl

theorem Image.revived (hr : r.BuiltIn) (ht : t.kind = Kind.program) (hf : t.Fresh) (h : Image accepts r t s s')
    (h' : taken accepts r s' = true) : Revived accepts r t s s' := by
  have hs := h.not_taken_of_taken h'
  have hb : Becomes accepts r s s'.node := by
    rcases h.node_cases with ⟨_, rfl⟩ | hb
    · rw [not_taken_root] at h'
      cases h'
    · exact hb
  rw [taken_eq, Bool.and_eq_true, Bool.and_eq_true, h.isCandidate hs, h.insideFunction] at h'
  obtain ⟨⟨hc, hi⟩, hconst⟩ := h'
  refine ⟨h.path, hc, hi, hs, h.not_taken_around, ?_, hconst⟩
  by_contra hno
  -- then its tree and all names around it are as they were, and the first pass would have taken it
  obtain ⟨hwalk, hnames⟩ := not_or.mp hno
  have hnames : ∀ v ∈ t.accepted accepts r, v.node.declaredNames = [] :=
    fun v hv => Classical.not_not.mp fun hne => hnames ⟨v, hv, hne⟩
  have hbefore := h.constant hr ht hf hnames hb (fun v hv hvs => hwalk ⟨v, hv, hvs⟩) hconst
  rw [taken_eq, hc, hi, hbefore] at hs
  cases hs

theorem carried_of_taken (ht : t.kind = Kind.program) {i : Nat} {v c w' : Site}
    (hi : (t.accepted accepts r)[i]? = some v)
    (hc : c ∈ (Site.ofValue (t.hoist accepts r).value (t.children.length + i) i v.node).children)
    (hw : w' ∈ c.walk) (h' : taken accepts r w' = true) : ∃ w, Carried accepts r t v w w' := by
  have halike := alike_asValue v.node
  obtain ⟨k, hk⟩ := List.mem_iff_getElem?.mp hc
  obtain ⟨path, hp⟩ := Site.follow_of_mem_walk hw
  have hfollow := Site.follow_cons.mpr ⟨c, hk, hp⟩
  obtain ⟨w, hw, hbelow⟩ := Site.ParallelBelow.of_follow (t := v) halike.symm (List.cons_ne_nil k path) hfollow
  have hcopy := hbelow.symm halike.symm
  rw [taken_eq, Bool.and_eq_true, Bool.and_eq_true,
    hcopy.isCandidate halike (Site.not_carrier_of_constant (Node.constant_of_accepted (List.mem_of_getElem? hi)))] at h'
  obtain ⟨⟨hcand, hin⟩, hconst⟩ := h'
  refine ⟨w, ⟨i, k :: path, hi, List.cons_ne_nil k path, hw, ?_⟩, hcand, ?_, hconst⟩
  · rw [follow_ofValue (Node.declaration_hoist hi)]
    exact hfollow
  · exact (hcopy.parallel.insideFunction_ofValue (isFunction_hoist ht)).mp hin

end Pass

/-- A second pass over the result of a pass changes nothing exactly when no candidate that stayed was revived and no
candidate was carried along that is constant at its new place. The resolver is one that comes with the library. -/
theorem Node.hoist_hoist_eq_iff (t : Node) (ht : t.kind = Kind.program) (hf : t.Fresh) (accepts : String → Bool)
    (r : Resolver) (hr : r.BuiltIn) :
    ((t.hoist accepts r).value.hoist accepts r).value = (t.hoist accepts r).value ↔
      (∀ s s', ¬ Pass.Revived accepts r t s s') ∧ ∀ v w w', ¬ Pass.Carried accepts r t v w w' := by
  rw [hoist_eq_self_iff]
  constructor
  · intro h
    refine ⟨fun s s' hs => ?_, fun v w w' hc => ?_⟩
    · obtain ⟨hs, htaken⟩ := hs.taken
      exact Bool.noConfusion ((h s' hs).symm.trans htaken)
    · obtain ⟨hs, htaken⟩ := hc.taken ht
      exact Bool.noConfusion ((h w' hs).symm.trans htaken)
  · rintro ⟨hrevived, hcarried⟩ s' hs
    cases htaken : Pass.taken accepts r s' with
    | false => rfl
    | true =>
        rcases Pass.taken_origin hs htaken with ⟨s, himage⟩ | ⟨i, v, hi, c, hc, hw⟩
        · exact absurd (himage.revived hr ht hf htaken) (hrevived s s')
        · obtain ⟨w, hcarry⟩ := Pass.carried_of_taken ht hi hc hw htaken
          exact absurd hcarry (hcarried v w s')

/-- Nothing is revived or carried along in the module with one value; the callback of the other module carries the
value of its inner markup along. -/
theorem Sample.plain_settled_nested_not :
    plain.kind = Kind.program ∧ plain.Fresh ∧ nested.kind = Kind.program ∧ nested.Fresh ∧
      ((∀ s s', ¬ Pass.Revived (fun _ => true) .lexical plain s s') ∧
        ∀ v w w', ¬ Pass.Carried (fun _ => true) .lexical plain v w w') ∧
      ¬ ((∀ s s', ¬ Pass.Revived (fun _ => true) .lexical nested s s') ∧
        ∀ v w w', ¬ Pass.Carried (fun _ => true) .lexical nested v w w') := by
  have hp : plain.Fresh := by decide +kernel
  have hn : nested.Fresh := by decide +kernel
  refine ⟨rfl, hp, rfl, hn, ?_, ?_⟩
  · rw [← plain.hoist_hoist_eq_iff rfl hp _ _ .lexical]
    decide +kernel
  · rw [← nested.hoist_hoist_eq_iff rfl hn _ _ .lexical]
    decide +kernel

/-- A second pass does not always change nothing. -/
theorem Sample.nested_hoist_hoist :
    ¬ ∀ (t : Node) (accepts : String → Bool) (r : Resolver), r.BuiltIn → t.kind = Kind.program → t.Fresh →
      ((t.hoist accepts r).value.hoist accepts r).value = (t.hoist accepts r).value := by
  intro h
  have heq := h nested (fun _ => true) .lexical .lexical rfl (by decide +kernel)
  exact absurd heq (by decide +kernel)

end AttrHoist
