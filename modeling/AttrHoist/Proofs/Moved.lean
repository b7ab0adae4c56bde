import AttrHoist.Proofs.Lemmas.Output

/-!
# Moved values depend on the same things

A value that a pass moves to the end of the module is constant there again, and every identifier in it that had a
fixed declaration keeps it.
-/

namespace AttrHoist

/-- A program that holds no other program. -/
structure Node.IsModule (t : Node) : Prop where
  kind : t.kind = Kind.program
  only : ∀ c ∈ t.children, ∀ n ∈ c.walk, n.kind ≠ Kind.program

theorem Node.IsModule.notFunction {t : Node} (h : t.IsModule) : t.isFunction = false := by
  rw [isFunction, h.kind]
  decide

/-! ## Fixed declarations come from the module -/

theorem Node.scopeBinding?_cases {n : Node} {name : String} {d : Declaration} (h : n.scopeBinding? name = some d) :
    d = .parameter ∨ d = .localVariable ∨ n.kind = Kind.program ∧ n.moduleBinding name = d := by
  unfold scopeBinding? at h
  split at h
  · unfold functionBinding? at h
    split at h
    · cases h; exact Or.inl rfl
    split at h
    · cases h; exact Or.inr (Or.inl rfl)
    split at h
    · cases h; exact Or.inr (Or.inl rfl)
    · cases h
  split at h
  · split at h
    · cases h; exact Or.inr (Or.inl rfl)
    · cases h
  split at h
  · next hk => exact Or.inr (Or.inr ⟨hk, Option.some.inj h⟩)
  · cases h

theorem Node.scopeBinding?_of_fixed {n : Node} {name : String} {d : Declaration} (h : n.scopeBinding? name = some d)
    (hd : d.isFixed = true) : n.kind = Kind.program ∧ n.moduleBinding name = d := by
  rcases scopeBinding?_cases h with rfl | rfl | hm
  · cases hd
  · cases hd
  · exact hm

variable {t : Node} {accepts : String → Bool} {r : Resolver}

/-- An accepted site lies below a statement. -/
theorem Node.IsModule.not_program (ht : t.IsModule) {c w : Site} (hc : c ∈ (Site.root t).children) (hw : w ∈ c.walk) :
    w.node.kind ≠ Kind.program :=
  ht.only c.node (Site.node_mem_children hc) w.node (Site.node_mem_walk hw)

/-- If an identifier in a subtree has a fixed declaration, then nothing in the subtree around it binds its name, and
the module does. -/
theorem Node.IsModule.scopes_of_fixed (ht : t.IsModule) {c v w : Site} (hc : c ∈ (Site.root t).children)
    (hv : v ∈ c.walk) (hw : w ∈ v.walk) (hf : w.lexicalDeclaration.value.isFixed = true) :
    ∃ q, w.ancestors = q ++ v.ancestors ∧ q.findSome? (·.node.scopeBinding? w.text) = none ∧
      t.moduleBinding w.text = w.lexicalDeclaration.value := by
  obtain ⟨q, hq, hqv⟩ := Site.ancestors_split hw
  rw [Site.value_lexicalDeclaration, hq, List.findSome?_append] at hf ⊢
  -- only a program gives fixed declarations, and there is none below a statement
  have hnone : q.findSome? (·.node.scopeBinding? w.text) = none := by
    cases hd : q.findSome? (·.node.scopeBinding? w.text) with
    | none => rfl
    | some d =>
        obtain ⟨a, ha, hb⟩ := List.exists_of_findSome?_eq_some hd
        rw [hd] at hf
        have hk := (scopeBinding?_of_fixed hb hf).1
        exact absurd hk (ht.not_program hc (Site.mem_walk_trans hv (hqv a ha)))
  refine ⟨q, rfl, hnone, ?_⟩
  rw [hnone, Option.none_or] at hf ⊢
  cases hd : v.ancestors.findSome? (·.node.scopeBinding? w.text) with
  | none => rw [hd] at hf; cases hf
  | some d =>
      obtain ⟨a, ha, hb⟩ := List.exists_of_findSome?_eq_some hd
      rw [hd] at hf
      obtain ⟨hk, hm⟩ := scopeBinding?_of_fixed hb hf
      obtain ⟨q', hq', hqc⟩ := Site.ancestors_split hv
      rw [hq', Site.ancestors_of_child hc] at ha
      rcases List.mem_append.mp ha with ha | ha
      · exact absurd hk (ht.not_program hc (hqc a ha))
      · rcases List.mem_cons.mp ha with rfl | ha
        · exact hm
        · cases ha

/-! ## The same declaration at the new place -/

/-- What encloses a value in its declaration leaves all names to the module. -/
theorem scopes_ofValue (out : Node) (hk : out.kind = Kind.program) (j i : Nat) (v : Node) (name : String) :
    (Site.ofValue out j i v).ancestors.findSome? (·.node.scopeBinding? name) = some (out.moduleBinding name) := by
  have hd : (declaratorOf i v).scopeBinding? name = none := rfl
  have hl : (declarationOf i v).scopeBinding? name = none := rfl
  have ho := Node.scopeBinding?_program hk name
  rw [show (Site.ofValue out j i v).ancestors =
    [((Site.root out).descend (declarationOf i v) j).descend (declaratorOf i v) 1,
      (Site.root out).descend (declarationOf i v) j, Site.root out] from rfl]
  rw [List.findSome?_cons, List.findSome?_cons, List.findSome?_cons]
  simp only [Site.descend, Site.root, hd, hl, ho]

theorem Node.IsModule.resolve_copy (ht : t.IsModule) (hr : r.BuiltIn) {v w w' : Site} {j i : Nat}
    (hv : v ∈ t.accepted accepts r) (hw : w ∈ v.walk)
    (h : Site.Parallel v (.ofValue (t.hoist accepts r).value j i v.node) w w')
    (hf : (r.resolve w).value.isFixed = true) : (r.resolve w').value = (r.resolve w).value := by
  have halike := alike_asValue v.node
  have htext : w'.text = w.text := (h.alike halike).text.symm
  cases hr with
  | table entries =>
      simp only [Resolver.resolve_table, htext]
  | lexical =>
      obtain ⟨c, hc, hvc⟩ := statement_of_accepted hv
      obtain ⟨q, hq, hnone, hm⟩ := ht.scopes_of_fixed hc hvc hw hf
      -- inside the value both places have the same scopes, and around the copy there is only the module
      obtain ⟨p, p', hp, hp', hpp⟩ := h.ancestors halike
      have hqp : q = p := List.append_cancel_right (hq.symm.trans hp)
      have hnone' : p'.findSome? (·.node.scopeBinding? w.text) = none := by
        rw [← rel_findSome? hpp fun a b hab => hab.scopeBinding? w.text, ← hqp, hnone]
      have hkind : (t.hoist accepts .lexical).value.kind = Kind.program := by
        rw [Node.kind, head_hoist]; exact ht.kind
      have hfix : (t.moduleBinding w.text).isFixed = true := by rw [hm]; exact hf
      show w'.lexicalDeclaration.value = w.lexicalDeclaration.value
      rw [Site.value_lexicalDeclaration, hp', List.findSome?_append, htext, hnone', Option.none_or,
        scopes_ofValue _ hkind, Option.getD_some, moduleBinding_hoist_of_fixed accepts .lexical ht.notFunction hfix, hm]

/-- Moving a value changes nothing that it depends on: the declarations that a pass appends hold the accepted
expressions in order, each of them is constant again at its new place, and whatever the resolver took for an import or
a constant of the module in it resolves to the same there. The resolver is one that comes with the library. -/
theorem Node.hoist_keeps_dependencies (t : Node) (ht : t.IsModule) (accepts : String → Bool) (r : Resolver)
    (hr : r.BuiltIn) :
    (t.hoist accepts r).value.children.length = t.children.length + (t.accepted accepts r).length ∧
      ∀ i v, (t.accepted accepts r)[i]? = some v →
        (t.hoist accepts r).value.children[t.children.length + i]? = some (declarationOf i v.node) ∧
        ∃ v', (Site.root (t.hoist accepts r).value).follow [t.children.length + i, 1, 2] = some v' ∧
          v'.node = v.node.asValue ∧ (r.constant v').value = true ∧
          ∀ path w, v.follow path = some w → (r.resolve w).value.isFixed = true →
            ∃ w', v'.follow path = some w' ∧ w.node.Alike w'.node ∧ (r.resolve w').value = (r.resolve w).value := by
  refine ⟨length_children_hoist accepts r t, ?_⟩
  intro i v hi
  have hd := declaration_hoist hi
  have hv : v ∈ t.accepted accepts r := List.mem_of_getElem? hi
  let v' : Site := .ofValue (t.hoist accepts r).value (t.children.length + i) i v.node
  have halike : v.node.Alike v'.node := alike_asValue v.node
  refine ⟨hd, v', follow_ofValue hd [], rfl, ?_, ?_⟩
  · refine Resolver.constant_of_parallel halike ?_ .here (constant_of_accepted hv)
    intro a b hab hfix
    rw [Resolver.value_fixed] at hfix ⊢
    rw [ht.resolve_copy hr hv hab.mem_walk hab hfix, hfix]
  · intro path w hw hfix
    obtain ⟨w', hw', hp⟩ := Site.Parallel.of_follow halike hw
    exact ⟨w', hw', hp.alike halike, ht.resolve_copy hr hv hp.mem_walk hp hfix⟩

/-- The callback of the sample module moves, and the imported `B` that it reads is the import there too. -/
theorem Sample.nested_keeps_dependencies :
    Sample.nested.IsModule ∧
      ∃ v', (Site.root (Sample.nested.hoist (fun _ => true) .lexical).value).follow [2, 1, 2] = some v' ∧
        v'.node = (Sample.callback (Sample.markup "style" Sample.record (some "body"))).asValue ∧
        (Resolver.lexical.constant v').value = true ∧
        ∃ w', v'.follow [2, 1] = some w' ∧ w'.text = "B" ∧ (Resolver.lexical.resolve w').value = .importBinding := by
  have ht : Sample.nested.IsModule := ⟨rfl, by decide +kernel⟩
  have heval : ((nested.accepted (fun _ => true) .lexical)[0]?.bind fun v => (v.follow [2, 1]).map fun w =>
      (v.node, w.text, (Resolver.lexical.resolve w).value)) =
      some (callback (markup "style" record (some "body")), "B", .importBinding) := by decide +kernel
  obtain ⟨v, hv, hmap⟩ := Option.bind_eq_some_iff.mp heval
  obtain ⟨w, hw, heq⟩ := Option.map_eq_some_iff.mp hmap
  obtain ⟨hn, htext, hr⟩ : v.node = _ ∧ w.text = _ ∧ (Resolver.lexical.resolve w).value = _ := by
    simpa only [Prod.mk.injEq] using heq
  obtain ⟨_, hall⟩ := nested.hoist_keeps_dependencies ht (fun _ => true) .lexical .lexical
  obtain ⟨_, v', hv', hn', hc, hids⟩ := hall 0 v hv
  obtain ⟨w', hw', halike, hr'⟩ := hids [2, 1] w hw (by rw [hr]; rfl)
  refine ⟨ht, v', hv', by rw [hn', hn], hc, w', hw', ?_, by rw [hr', hr]⟩
  rw [← htext]
  exact halike.text.symm

end AttrHoist
