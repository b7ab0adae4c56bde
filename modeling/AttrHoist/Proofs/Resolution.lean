import AttrHoist.Proofs.Lemmas.Scopes
import AttrHoist.Proofs.Moved

/-!
# Names mean the same after a pass

What a pass leaves at its place refers to what it referred to before, and the references that it puts in refer to the
constants that it appends. Accepted values must not declare names, since these would be gone from the scopes around
them.
-/

namespace AttrHoist

variable {accepts : String → Bool} {r : Resolver} {t : Node} {s s' : Site}

theorem Node.Fresh.site {w : Site} (h : s.node.Fresh) (hw : w ∈ s.walk) : w.node.Fresh := by
  induction s using Site.induction_on with
  | step s ih =>
      rcases Site.mem_walk.mp hw with rfl | ⟨c, hc, hw⟩
      · exact h
      · exact ih c hc (h.child (Site.node_mem_children hc)) hw

namespace Pass

/-! ## Sites outside the accepted values -/

theorem Image.exists_child (h : Image accepts r t s s') (hs : taken accepts r s = false) {i : Nat} {c : Site}
    (hc : s.children[i]? = some c) : ∃ c', s'.children[i]? = some c' := by
  have hn : ∃ n, s'.node.children[i]? = some n := by
    rcases h.node_cases with ⟨rfl, rfl⟩ | hb
    · obtain ⟨ns, hns, _, hkept⟩ := t.children_hoist accepts r
      obtain ⟨n, hi, _⟩ := rel_getElem?_left hkept hc
      refine ⟨n, (congrArg (·[i]?) hns).trans ?_⟩
      rw [List.getElem?_append_left (List.getElem?_eq_some_iff.mp hi).1, hi]
    · obtain ⟨n, hi, _⟩ := rel_getElem?_left (Kept.children_become ⟨hs, hb⟩).2 hc
      exact ⟨n, hi⟩
  obtain ⟨n, hn⟩ := hn
  exact ⟨_, by rw [Site.getElem?_children, hn, Option.map_some]⟩

/-- On the way to a site that lies in no accepted value nothing is taken, since what is taken first is accepted. -/
theorem Image.not_taken_of_outside {w w' : Site} (h : Image accepts r t w w') (hs : s ∈ w.walk)
    (hout : ∀ v ∈ t.accepted accepts r, s ∉ v.walk) : taken accepts r w = false := by
  cases ht : taken accepts r w with
  | false => rfl
  | true =>
      have hv := Node.mem_accepted.mpr ⟨h.inPlace.1, ht, h.inPlace.2⟩
      exact absurd hs (hout w hv)

/-- Such a site has an image, to which the same steps lead. -/
theorem Image.exists_follow {w w' : Site} (h : Image accepts r t w w') {path : List Nat} (hs : w.follow path = some s)
    (hout : ∀ v ∈ t.accepted accepts r, s ∉ v.walk) :
    ∃ s', w'.follow path = some s' ∧ Image accepts r t s s' ∧ taken accepts r s = false := by
  have hw := h.not_taken_of_outside (Site.mem_walk_of_follow hs) hout
  induction path generalizing w w' with
  | nil =>
      cases hs
      exact ⟨w', rfl, h, hw⟩
  | cons i path ih =>
      obtain ⟨c, hc, hs⟩ := Site.follow_cons.mp hs
      obtain ⟨c', hc'⟩ := h.exists_child hw hc
      have himage : Image accepts r t c c' := .child h hw hc hc'
      obtain ⟨s', hs', hi, ht⟩ := ih himage hs (himage.not_taken_of_outside (Site.mem_walk_of_follow hs) hout)
      exact ⟨s', Site.follow_cons.mpr ⟨c', hc', hs'⟩, hi, ht⟩

/-! ## References -/

/-- After a pass a generated name is bound by the module and by nothing else. -/
theorem Image.scopeBinding?_generatedName (ht : t.IsModule) (hf : t.Fresh)
    (hnames : ∀ v ∈ t.accepted accepts r, v.node.declaredNames = []) (h : Image accepts r t s s')
    (hs : taken accepts r s = false) {i : Nat} (hi : i < (t.accepted accepts r).length) :
    s'.node.scopeBinding? (generatedName i) = if s.kind = Kind.program then some .moduleConstant else none := by
  have hstem := hasStem_generatedName i
  cases h with
  | root =>
      have hk : (t.hoist accepts r).value.kind = Kind.program := by
        rw [Node.kind, Node.head_hoist]
        exact ht.kind
      have hfirst : firstBinding? t.namedChildren (generatedName i) = none :=
        Node.Fresh.firstBinding? (fun n hn => hf.namedChild hn) hstem
      have hdecl := firstBinding?_generatedName ((t.accepted accepts r).map Site.node) (i := i)
        (by rw [List.length_map]; exact hi)
      rw [if_pos (show (Site.root t).kind = _ from ht.kind)]
      refine (Node.scopeBinding?_program hk _).trans (congrArg some ?_)
      rw [Node.moduleBinding_hoist accepts r ht.notFunction, hfirst, hdecl]
      rfl
  | child h hp hc hc' =>
      have himage : Image accepts r t s s' := .child h hp hc hc'
      -- a site that is the child of another is not the root, so it lies below a statement
      obtain ⟨k, htrail⟩ := Site.trail_of_child (List.mem_of_getElem? hc)
      have hroot : s ≠ .root t := fun he => by
        rw [he] at htrail
        cases htrail
      obtain ⟨c, hcs, hsc⟩ := (Site.mem_walk.mp himage.inPlace.1).resolve_left hroot
      have hk : s.node.kind ≠ Kind.program := ht.not_program hcs hsc
      have hb := himage.node_cases.resolve_left fun he => hroot he.1
      have hfresh : s.node.Fresh := Node.Fresh.site (s := .root t) hf himage.inPlace.1
      rw [if_neg (show s.kind ≠ _ from hk), himage.inPlace.scopeBinding? hnames ⟨hs, hb⟩, hfresh.scopeBinding? hk hstem]

theorem Image.resolve_reference (ht : t.IsModule) (hf : t.Fresh)
    (hnames : ∀ v ∈ t.accepted accepts r, v.node.declaredNames = []) (h : Image accepts r t s s')
    {i : Nat} (hi : (t.accepted accepts r)[i]? = some s) (hs' : s'.text = generatedName i) :
    s'.lexicalDeclaration.value = .moduleConstant := by
  have hlt := (List.getElem?_eq_some_iff.mp hi).1
  obtain ⟨c, hc, hsc⟩ := Node.statement_of_accepted (List.mem_of_getElem? hi)
  have hroot : Site.root t ∈ s.ancestors := Site.mem_ancestors_of_below hc hsc
  have hfind : s'.ancestors.findSome? (·.node.scopeBinding? (generatedName i)) = some .moduleConstant := by
    rw [← rel_findSome? h.ancestors fun a a' ha => (ha.1.scopeBinding?_generatedName ht hf hnames ha.2 hlt).symm]
    refine findSome?_eq_of_unique hroot (if_pos ht.kind) ?_
    intro a _ d hd
    split at hd
    · exact (Option.some.inj hd).symm
    · cases hd
  rw [Site.value_lexicalDeclaration, hs', hfind, Option.getD_some]

end Pass

/-- A pass over a module without generated names leaves the meaning of names alone, if the accepted values declare
none: whatever lies in no accepted value, identifiers of both sorts included, resolves as before at the same place of
the result, and the reference at the place of each accepted value resolves to a constant of the module. -/
theorem Node.hoist_keeps_resolution (t : Node) (ht : t.IsModule) (hf : t.Fresh) (accepts : String → Bool)
    (hnames : ∀ v ∈ t.accepted accepts .lexical, v.node.declaredNames = []) :
    (∀ path s, (Site.root t).follow path = some s → (∀ v ∈ t.accepted accepts .lexical, s ∉ v.walk) →
        ∃ s', (Site.root (t.hoist accepts .lexical).value).follow path = some s' ∧ s'.node.head = s.node.head ∧
          Resolver.lexical.resolve s' = Resolver.lexical.resolve s) ∧
      ∀ i v, (t.accepted accepts .lexical)[i]? = some v →
        ∃ path v', (Site.root t).follow path = some v ∧
          (Site.root (t.hoist accepts .lexical).value).follow path = some v' ∧
          v'.node = .identifier (generatedName i) v.node.leading v.node.field ∧
          (Resolver.lexical.resolve v').value = .moduleConstant := by
  constructor
  · intro path s hs hout
    obtain ⟨s', hs', himage, htaken⟩ := Pass.Image.root.exists_follow hs hout
    have hhead := himage.head htaken
    have hstem : hasStem s.text = false := hf s.node (Site.node_mem_walk (Site.mem_walk_of_follow hs))
    refine ⟨s', hs', hhead, Site.lexicalDeclaration_congr (congrArg Head.text hhead) ?_⟩
    exact (rel_findSome? himage.ancestors fun a a' ha => (ha.1.scopeBinding? ht.kind hnames ha.2 hstem).symm).symm
  · intro i v hi
    obtain ⟨path, v', hp, hp', hn⟩ := reference_hoist hi
    have himage : Pass.Image accepts .lexical t v v' :=
      Pass.Image.root.follow hp hp' (mem_accepted.mp (List.mem_of_getElem? hi)).2.2
    exact ⟨path, v', hp, hp', hn, himage.resolve_reference ht hf hnames hi (congrArg Node.text hn)⟩

/-- In the sample module the tag stays the import, and the reference in its attribute is the appended constant. -/
theorem Sample.nested_keeps_resolution :
    nested.IsModule ∧ nested.Fresh ∧
      (∃ s', (Site.root (nested.hoist (fun _ => true) .lexical).value).follow [1, 3, 1, 1, 1] = some s' ∧
        s'.text = "B" ∧ (Resolver.lexical.resolve s').value = .importBinding) ∧
      ∃ path v', (Site.root (nested.hoist (fun _ => true) .lexical).value).follow path = some v' ∧
        v'.text = "__$hoisted_o0" ∧ (Resolver.lexical.resolve v').value = .moduleConstant := by
  have ht : nested.IsModule := ⟨rfl, by decide +kernel⟩
  have hf : nested.Fresh := by decide +kernel
  have hnames : ∀ v ∈ nested.accepted (fun _ => true) .lexical, v.node.declaredNames = [] := by decide +kernel
  have hdepth : ∀ v ∈ nested.accepted (fun _ => true) .lexical, v.trail.length = 7 := by decide +kernel
  have htag : ((Site.root nested).follow [1, 3, 1, 1, 1]).map
      (fun s => (s.trail.length, s.text, (Resolver.lexical.resolve s).value)) = some (5, "B", .importBinding) := by
    decide +kernel
  have hlength : 0 < (nested.accepted (fun _ => true) .lexical).length := by decide +kernel
  obtain ⟨hstay, hrefs⟩ := nested.hoist_keeps_resolution ht hf (fun _ => true) hnames
  obtain ⟨s, hs, heq⟩ := Option.map_eq_some_iff.mp htag
  obtain ⟨hl, htext, hr⟩ : s.trail.length = 5 ∧ s.text = _ ∧ (Resolver.lexical.resolve s).value = _ := by
    simpa only [Prod.mk.injEq] using heq
  obtain ⟨s', hs', hhead, hres⟩ := hstay _ s hs fun v hv hsv => by
    have hle := Site.length_le_of_mem_walk hsv
    rw [hdepth v hv] at hle
    omega
  obtain ⟨path, v', _, hp', hn, hconst⟩ := hrefs 0 _ (List.getElem?_eq_getElem hlength)
  refine ⟨ht, hf, ⟨s', hs', ?_, by rw [hres, hr]⟩, path, v', hp', by rw [Site.text, hn]; rfl, hconst⟩
  rw [← htext]
  exact congrArg Head.text hhead

end AttrHoist
