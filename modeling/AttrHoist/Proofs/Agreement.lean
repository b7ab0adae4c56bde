import AttrHoist.Proofs.Shadowing

/-!
# Two walks through the scopes

From a read outwards, the constancy test asks each scope of a function whether it binds the name, and the resolver asks
each scope what the name refers to. What the first takes for bound inside the function, the second finds there as well.
The first does not look into the bodies of inner functions, so the other way round it relies on these bodies being
blocks that enclose the read.
-/

namespace AttrHoist

def Kind.statementBlock : Kind := "statement_block"

namespace Site

/-- The innermost site around an identifier at which the lexical resolver decides what it refers to. -/
def decidedAt? (r : Site) : Option Site := r.ancestors.find? fun a => (a.node.scopeBinding? r.text).isSome

variable {f c r a : Site} {name : String}

/-! ## Where the resolver decides -/

theorem scopeBinding?_of_decidedAt? (h : r.decidedAt? = some a) :
    a.node.scopeBinding? r.text = some r.lexicalDeclaration.value := by
  obtain ⟨hsome, before, after, hsplit, hopen⟩ := List.find?_eq_some_iff_append.mp h
  obtain ⟨d, hd⟩ := Option.isSome_iff_exists.mp hsome
  have hfind : r.ancestors.findSome? (·.node.scopeBinding? r.text) = some d := by
    refine List.findSome?_eq_some_iff.mpr ⟨before, a, after, hsplit, hd, fun b hb => ?_⟩
    simpa using hopen b hb
  rw [value_lexicalDeclaration, hfind, hd, Option.getD_some]

/-- The resolver decides inside a function as soon as some scope there has an answer. -/
theorem decidedAt?_inside_iff (hc : c ∈ f.children) (hr : r ∈ c.walk) :
    (∃ a, r.decidedAt? = some a ∧ a ∈ f.walk) ↔
      ∃ a ∈ r.ancestors, a ∈ f.walk ∧ (a.node.scopeBinding? r.text).isSome = true := by
  constructor
  · rintro ⟨a, ha, hf⟩
    exact ⟨a, List.mem_of_find?_eq_some ha, hf, (List.find?_eq_some_iff_append.mp ha).1⟩
  · rintro ⟨a, ha, hf, hsome⟩
    obtain ⟨q, hq, hqc⟩ := ancestors_split (mem_walk.mpr (Or.inr ⟨c, hc, hr⟩))
    -- what encloses the function does not lie below it, so the answer comes before
    have haq : a ∈ q := by
      rw [hq] at ha
      rcases List.mem_append.mp ha with ha | ha
      · exact ha
      · have hlt := length_lt_of_ancestor ha
        have hle := length_le_of_mem_walk hf
        omega
    have hfind : (q.find? fun a => (a.node.scopeBinding? r.text).isSome).isSome = true :=
      List.find?_isSome.mpr ⟨a, haq, hsome⟩
    obtain ⟨b, hb⟩ := Option.isSome_iff_exists.mp hfind
    refine ⟨b, ?_, hqc b (List.mem_of_find?_eq_some hb)⟩
    rw [decidedAt?, hq, List.find?_append, hb, Option.some_or]

/-! ## The answers of the constancy test -/

/-- What binds a name for the constancy test decides it for the resolver. -/
theorem isSome_of_innerBinds (h : a.node.innerBinds name = true) : (a.node.scopeBinding? name).isSome = true := by
  unfold Node.innerBinds at h
  unfold Node.scopeBinding?
  split at h
  · next hf =>
      rw [Bool.or_eq_true, Bool.and_eq_true, decide_eq_true_eq, decide_eq_true_eq] at h
      rw [if_pos hf, isSome_functionBinding?]
      exact h.imp_right Or.inl
  · next hf =>
      rw [Bool.and_eq_true, decide_eq_true_eq, decide_eq_true_eq] at h
      rw [if_neg hf, if_pos h.1, if_pos h.2]
      rfl

theorem mem_name_iff {n : Node} : name ∈ (n.child? "name").toList.map Node.text ↔ n.isCalled name = true := by
  unfold Node.isCalled
  cases n.child? "name" with
  | none => simp
  | some m => rw [Option.toList_some, List.map_singleton, List.mem_singleton, Option.any_some, beq_iff_eq, eq_comm]

/-- At the function itself both ask for the same names. -/
theorem binds_iff (hk : f.kind ∈ Kind.functionExpressions) :
    f.node.binds name = true ↔ (f.node.scopeBinding? name).isSome = true := by
  have hbody : name ∈ (f.node.child? "body").toList.flatMap Node.declaredNames ↔
      (f.node.child? "body").any (name ∈ ·.declaredNames) = true := by
    cases f.node.child? "body" with
    | none => simp
    | some body => simp
  rw [Node.scopeBinding?, if_pos (isFunction_of_expression hk), isSome_functionBinding?, Node.binds, Node.bodyNames,
    Bool.or_eq_true, decide_eq_true_eq, decide_eq_true_eq, List.mem_append, hbody, mem_name_iff,
    and_iff_right (show f.node.kind ∈ _ from hk)]
  tauto

/-- An inner function whose body is a block around the read leaves nothing to the resolver alone: what its body
declares, the block binds. -/
theorem innerBinds_of_shadows (hr : a ∈ r.ancestors) (hc : a ∈ c.walk) (hclass : a.kind ∉ Kind.classes)
    (hbody : a.node.isFunction = true →
      ∃ body, a.child? "body" = some body ∧ body.kind = Kind.statementBlock ∧ body ∈ r.ancestors)
    (h : a.Shadows name) : ∃ scope ∈ r.ancestors, scope ∈ c.walk ∧ scope.node.innerBinds name = true := by
  cases h with
  | parameter hf h => exact ⟨a, hr, hc, by simp [Node.innerBinds, hf, h]⟩
  | functionName hk h =>
      have hk' : a.node.kind ∈ Kind.functionExpressions := hk
      exact ⟨a, hr, hc, by simp [Node.innerBinds, isFunction_of_expression hk, hk', h]⟩
  | className hk _ => exact absurd hk hclass
  | declared hd h =>
      rcases scope_of_extent hd with hf | hk
      · obtain ⟨body, hb, hblock, hbr⟩ := hbody hf
        have hk : body.kind ∈ Kind.blocks := by
          rw [hblock]
          decide
        have hwalk : body ∈ a.walk := mem_walk.mpr (Or.inr ⟨body, mem_of_child? hb, self_mem_walk body⟩)
        rw [extent_of_function hf, hb, Option.toList_some, List.flatMap_singleton] at hd
        exact ⟨body, hbr, mem_walk_trans hc hwalk, innerBinds_of_region hk hd h⟩
      · rw [extent_of_block hk] at hd
        exact ⟨a, hr, hc, innerBinds_of_region hk hd h⟩

/-! ## Agreement -/

theorem not_program_below {t : Node} (ht : t.IsModule) (hf : f ∈ t.sites) (hk : f.kind ≠ Kind.program)
    (ha : a ∈ f.walk) : a.kind ≠ Kind.program := by
  have hne : f ≠ .root t := by
    rintro rfl
    exact hk ht.kind
  obtain ⟨c, hc, hfc⟩ := (mem_walk.mp hf).resolve_left hne
  exact ht.not_program hc (mem_walk_trans hfc ha)

/-- A read that counts as bound inside a function expression refers to a parameter or a local variable, and the
resolver finds it in the function. Conversely, if every function between the read and the function expression has a
block around the read as its body, what the resolver finds in the function expression counts as bound inside it. -/
theorem boundWithin_agrees (t : Node) (ht : t.IsModule) (f : Site) (hf : f ∈ t.sites)
    (hk : f.kind ∈ Kind.functionExpressions) (r : Site) (hr : r ∈ f.walk) (hne : r ≠ f) :
    (f.boundWithin r = true → ∃ scope, r.decidedAt? = some scope ∧ scope ∈ f.walk ∧
        scope.node.scopeBinding? r.text = some r.lexicalDeclaration.value ∧
        (r.lexicalDeclaration.value = .parameter ∨ r.lexicalDeclaration.value = .localVariable)) ∧
      ((∀ g ∈ r.ancestors, g ∈ f.walk → g ≠ f → g.node.isFunction = true →
          ∃ body, g.child? "body" = some body ∧ body.kind = Kind.statementBlock ∧ body ∈ r.ancestors) →
        (∃ scope, r.decidedAt? = some scope ∧ scope ∈ f.walk) → f.boundWithin r = true) := by
  have hfp : f.kind ≠ Kind.program := by
    have hall : ∀ k ∈ Kind.functionExpressions, k ≠ Kind.program := by decide
    exact hall _ hk
  have hprogram : ∀ {a : Site}, a ∈ f.walk → a.kind ≠ Kind.program := fun ha => not_program_below ht hf hfp ha
  obtain ⟨c, hc, hrc⟩ := (mem_walk.mp hr).resolve_left hne
  rw [decidedAt?_inside_iff hc hrc, boundWithin_iff hc hrc]
  constructor
  · intro h
    have hsome : ∃ a ∈ r.ancestors, a ∈ f.walk ∧ (a.node.scopeBinding? r.text).isSome = true := by
      rcases h with ⟨a, ha, hac, hb⟩ | hb
      · exact ⟨a, ha, mem_walk.mpr (Or.inr ⟨c, hc, hac⟩), isSome_of_innerBinds hb⟩
      · exact ⟨f, mem_ancestors_of_below hc hrc, self_mem_walk f, (binds_iff hk).mp hb⟩
    obtain ⟨scope, hs, hsf⟩ := (decidedAt?_inside_iff hc hrc).mpr hsome
    have hd := scopeBinding?_of_decidedAt? hs
    refine ⟨scope, hs, hsf, hd, (Node.scopeBinding?_cases hd).imp_right fun h => h.resolve_right fun hm => ?_⟩
    exact hprogram hsf hm.1
  · rintro hbodies ⟨a, ha, haf, hsome⟩
    by_cases hfa : a = f
    · subst hfa
      exact Or.inr ((binds_iff hk).mpr hsome)
    · have hac := mem_walk_of_between hc hrc ha haf hfa
      obtain ⟨hs, hclass⟩ := (isSome_scopeBinding?_iff (hprogram haf)).mp hsome
      exact Or.inl (innerBinds_of_shadows ha hac hclass (hbodies a ha haf hfa) hs)

end Site

namespace Sample

/-- `() => { function () { { let x = 1; } return x; } }`. -/
def twoLevels : Node :=
  callback (.mk { kind := "statement_block", field := some "body", leading := " " }
    [.token "\x7b",
      .mk { kind := "function_expression", leading := " " } [.token "function", noParameters, lateBody],
      .token "\x7d" " "])

def twoLevelsModule : Node := .mk { kind := Kind.program } [importB, component twoLevels]

def outerFunction : Site := ((Site.root twoLevelsModule).follow [1, 3, 1, 1]).getD (.root twoLevelsModule)

/-- The `x` that the inner function returns. -/
def innerRead : Site := (outerFunction.follow [2, 1, 2, 2, 1]).getD outerFunction

/-- Both walks find the returned `x` inside the outer function. -/
theorem innerRead_agrees :
    twoLevelsModule.IsModule ∧ outerFunction ∈ twoLevelsModule.sites ∧ outerFunction.kind ∈ Kind.functionExpressions ∧
      innerRead ∈ outerFunction.walk ∧ innerRead ≠ outerFunction ∧ innerRead.text = "x" ∧
      (∃ scope, innerRead.decidedAt? = some scope ∧ scope ∈ outerFunction.walk) ∧
      outerFunction.boundWithin innerRead = true ∧ innerRead.lexicalDeclaration.value = .localVariable := by
  have ht : twoLevelsModule.IsModule := ⟨rfl, by decide +kernel⟩
  have hf : outerFunction ∈ twoLevelsModule.sites := by decide +kernel
  have hk : outerFunction.kind ∈ Kind.functionExpressions := by decide +kernel
  have hr : innerRead ∈ outerFunction.walk := by decide +kernel
  have hne : innerRead ≠ outerFunction := by decide +kernel
  obtain ⟨hbound, hfound⟩ := Site.boundWithin_agrees twoLevelsModule ht outerFunction hf hk innerRead hr hne
  have hbodies : ∀ g ∈ innerRead.ancestors, g ∈ outerFunction.walk → g ≠ outerFunction → g.node.isFunction = true →
      (g.child? "body").any (fun body => body.kind = Kind.statementBlock ∧ body ∈ innerRead.ancestors) = true := by
    decide +kernel
  have hscope : innerRead.decidedAt?.any (· ∈ outerFunction.walk) = true := by decide +kernel
  obtain ⟨scope, hs, hsf⟩ := (Option.any_eq_true _ _).mp hscope
  have hin : ∃ scope, innerRead.decidedAt? = some scope ∧ scope ∈ outerFunction.walk := ⟨scope, hs, of_decide_eq_true hsf⟩
  have hb : outerFunction.boundWithin innerRead = true := by
    refine hfound (fun g hg hgf hgne hfun => ?_) hin
    obtain ⟨body, hb, h⟩ := (Option.any_eq_true _ _).mp (hbodies g hg hgf hgne hfun)
    exact ⟨body, hb, of_decide_eq_true h⟩
  obtain ⟨_, _, _, _, hlocal⟩ := hbound hb
  refine ⟨ht, hf, hk, hr, hne, by decide +kernel, hin, hb, hlocal.resolve_left (by decide +kernel)⟩

end Sample

end AttrHoist
