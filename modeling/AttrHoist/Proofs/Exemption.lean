import AttrHoist.Proofs.Lemmas.Output

/-!
# Which reads are exempt

A read of a function is exempt from the constancy test when it counts as bound inside the function. Here that is
compared with the scopes that really enclose the read: exemption and binding agree except where a declaration is in
sight of the read and its own scope does not reach it.
-/

namespace AttrHoist

deriving instance DecidableEq for Crumb, Site

/-! ## Scopes and what they bind -/

def Kind.variableDeclaration : Kind := "variable_declaration"
def Kind.classExpression : Kind := "class"

/-- Classes that are declared in the scope around them. -/
def Kind.classDeclarations : List Kind := ["class_declaration", "abstract_class_declaration"]

namespace Site

/-- The body of the nearest function around a site, if the site lies in it. -/
def bodyAround? (d : Site) : Option Site :=
  ((d :: d.ancestors).find? fun a => a.parent?.any (·.node.isFunction)).filter (·.node.field == some "body")

/-- The nearest block around a site, where the body of a function counts as a block. -/
def blockAround? (d : Site) : Option Site :=
  (d.ancestors.find? fun a => a.node.isFunction || a.kind ∈ Kind.blocks).bind fun a =>
    if a.node.isFunction then d.bodyAround? else some a

/-- Whether a declarator belongs to a `var`. -/
def isVar (d : Site) : Bool := d.parent?.any (·.kind == Kind.variableDeclaration)

/-- The scopes in which the names that a declaration declares are visible. A `var` reaches the whole body of its
function; other declarators, functions and classes reach the nearest block, and classes also their own inside;
catch clauses and loops keep their names to themselves. -/
def homes (d : Site) : List Site :=
  if d.kind = Kind.declarator then (if d.isVar then d.bodyAround? else d.blockAround?).toList
  else if d.kind = Kind.classExpression then [d]
  else if d.kind ∈ Kind.classDeclarations then d :: d.blockAround?.toList
  else if d.kind ∈ Kind.namedDeclarations then d.blockAround?.toList
  else [d]

/-- Whether a scope binds a name for what it encloses. -/
def Binds (scope : Site) (name : String) : Prop :=
  scope.node.isFunction = true ∧ name ∈ scope.node.parameterNames ∨
    scope.kind ∈ Kind.functionExpressions ∧ scope.node.isCalled name = true ∨
    ∃ d ∈ scope.walk, name ∈ d.node.ownNames ∧ scope ∈ d.homes

instance (scope : Site) (name : String) : Decidable (scope.Binds name) := by
  unfold Binds
  infer_instance

/-- Whether a site encloses a read and lies in the function `f` or is `f`. -/
def Encloses (f r scope : Site) : Prop := scope ∈ r.ancestors ∧ scope ∈ f.walk

instance (f r scope : Site) : Decidable (f.Encloses r scope) := by
  unfold Encloses
  infer_instance

/-- Whether a scope inside `f` that encloses a read binds it. -/
def Bound (f r : Site) : Prop := ∃ scope ∈ r.ancestors, scope ∈ f.walk ∧ scope.Binds r.text

instance (f r : Site) : Decidable (f.Bound r) := by
  unfold Bound
  infer_instance

/-- A site and what lies below it outside of functions. -/
def region (s : Site) : List Site := visit (fun d => !d.node.isFunction) [s]

/-- A declaration of a read's name that can be met from the read but does not reach it: it stands, outside of further
functions, in the body of `f` or in a block of `f` that encloses the read, and no scope of its names encloses the read
inside `f`. -/
structure Stray (f r d : Site) : Prop where
  declares : r.text ∈ d.node.ownNames
  inSight : ∃ scope, (f.child? "body" = some scope ∨ scope.kind ∈ Kind.blocks ∧ f.Encloses r scope) ∧ d ∈ scope.region
  unreached : ∀ home ∈ d.homes, ¬ f.Encloses r home

/-! ## Regions -/

theorem region_eq (s : Site) : s.region = s :: if s.node.isFunction then [] else s.children.flatMap region := by
  rw [region, visit_singleton]
  cases s.node.isFunction with
  | true => rfl
  | false => exact congrArg _ (visit_eq_flatMap _ _)

theorem mem_walk_of_region {s d : Site} (h : d ∈ s.region) : d ∈ s.walk := by
  induction s using induction_on with
  | step s ih =>
      rw [region_eq] at h
      rcases List.mem_cons.mp h with rfl | h
      · exact self_mem_walk d
      · split at h
        · cases h
        · obtain ⟨c, hc, hd⟩ := List.mem_flatMap.mp h
          exact mem_walk.mpr (Or.inr ⟨c, hc, ih c hc hd⟩)

theorem declaredNames_region (s : Site) : s.node.declaredNames = s.region.flatMap (·.node.ownNames) := by
  induction s using induction_on with
  | step s ih =>
      rw [Node.declaredNames_eq, region_eq, List.flatMap_cons]
      congr 1
      cases s.node.isFunction with
      | true => rfl
      | false =>
          have hc : s.node.children.flatMap Node.declaredNames =
              s.children.flatMap fun c => c.node.declaredNames := by
            rw [← map_node_children, List.flatMap_map]
          simp only [Bool.false_eq_true, ↓reduceIte, hc, List.flatMap_assoc]
          exact List.flatMap_congr ih

theorem mem_declaredNames {s : Site} {name : String} :
    name ∈ s.node.declaredNames ↔ ∃ d ∈ s.region, name ∈ d.node.ownNames := by
  rw [declaredNames_region, List.mem_flatMap]

theorem map_node_child? (s : Site) (field : String) : (s.child? field).map node = s.node.child? field := by
  rw [child?, Node.child?, ← map_node_children, List.find?_map]
  rfl

/-! ## What encloses a read -/

theorem mem_of_bodyAround? {d home : Site} (h : d.bodyAround? = some home) : home = d ∨ home ∈ d.ancestors :=
  List.mem_cons.mp (List.mem_of_find?_eq_some (Option.filter_eq_some_iff.mp h).1)

theorem mem_of_blockAround? {d home : Site} (h : d.blockAround? = some home) : home = d ∨ home ∈ d.ancestors := by
  obtain ⟨a, ha, hb⟩ := Option.bind_eq_some_iff.mp h
  split at hb
  · exact mem_of_bodyAround? hb
  · cases hb
    exact Or.inr (List.mem_of_find?_eq_some ha)

theorem mem_of_homes {d home : Site} (h : home ∈ d.homes) : home = d ∨ home ∈ d.ancestors := by
  unfold homes at h
  split at h
  · split at h
    · exact mem_of_bodyAround? (Option.mem_toList.mp h)
    · exact mem_of_blockAround? (Option.mem_toList.mp h)
  split at h
  · exact Or.inl (List.mem_singleton.mp h)
  split at h
  · rcases List.mem_cons.mp h with h | h
    · exact Or.inl h
    · exact mem_of_blockAround? (Option.mem_toList.mp h)
  split at h
  · exact mem_of_blockAround? (Option.mem_toList.mp h)
  · exact Or.inl (List.mem_singleton.mp h)

theorem bound_of_home {f r d home : Site} (hd : d ∈ f.walk) (hn : r.text ∈ d.node.ownNames) (hh : home ∈ d.homes)
    (he : f.Encloses r home) : f.Bound r := by
  -- a home is at or around its declaration, so the declaration lies in it
  refine ⟨home, he.1, he.2, Or.inr (Or.inr ⟨d, ?_, hn, hh⟩)⟩
  rcases mem_of_homes hh with rfl | ha
  · exact self_mem_walk home
  · exact mem_walk_of_ancestor hd ha he.2

/-! ## Exemption by enclosing scopes -/

theorem child_of_functionReads {f r : Site} (h : r ∈ f.functionReads) : ∃ c ∈ f.children, r ∈ c.walk := by
  rcases List.mem_append.mp h with h | h
  · obtain ⟨c, hc, hr⟩ := List.mem_flatMap.mp h
    rcases Option.or_eq_some_iff.mp (Option.mem_toList.mp hc) with hc | ⟨_, hc⟩
    · exact ⟨c, mem_of_child? hc, (List.mem_filter.mp hr).1⟩
    · exact ⟨c, mem_of_child? hc, (List.mem_filter.mp hr).1⟩
  · obtain ⟨c, hc, hr⟩ := List.mem_flatMap.mp h
    exact ⟨c, mem_of_child? (Option.mem_toList.mp hc), (List.mem_filter.mp hr).1⟩

/-- Scopes inside a function pass the question on unless they bind the name; the function answers it. -/
theorem findSome?_scopeAnswer {f : Site} {name : String} {q rest : List Site}
    (hq : ∀ a ∈ q, f.trail.length < a.trail.length) :
    (q ++ f :: rest).findSome? (scopeAnswer f name) =
      some (q.any (·.node.innerBinds name) || f.node.binds name) := by
  induction q with
  | nil =>
      rw [List.nil_append, List.findSome?_cons, scopeAnswer, samePlace, sameSteps_self]
      rfl
  | cons a q ih =>
      have ha : a.samePlace f = false := not_sameSteps_of_length (hq a List.mem_cons_self)
      rw [List.cons_append, List.findSome?_cons, scopeAnswer, ha, List.any_cons,
        ih fun b hb => hq b (List.mem_cons_of_mem a hb)]
      cases a.node.innerBinds name with
      | true => rfl
      | false => rfl

theorem boundWithin_iff {f c r : Site} (hc : c ∈ f.children) (hr : r ∈ c.walk) :
    f.boundWithin r = true ↔
      (∃ scope ∈ r.ancestors, scope ∈ c.walk ∧ scope.node.innerBinds r.text = true) ∨ f.node.binds r.text = true := by
  obtain ⟨q, hq, hqc⟩ := ancestors_split hr
  rw [boundWithin_eq, hq, ancestors_of_child hc,
    findSome?_scopeAnswer fun a ha => length_lt_of_below hc (hqc a ha), Option.getD_some, Bool.or_eq_true, List.any_eq_true]
  refine or_congr_left ⟨?_, ?_⟩
  · rintro ⟨a, ha, hb⟩
    exact ⟨a, List.mem_append_left _ ha, hqc a ha, hb⟩
  · rintro ⟨a, ha, hac, hb⟩
    rcases List.mem_append.mp ha with ha | ha
    · exact ⟨a, ha, hb⟩
    · -- what encloses the function is no place inside it
      have hlt := length_lt_of_below hc hac
      rcases List.mem_cons.mp ha with rfl | ha
      · omega
      · have := length_lt_of_ancestor ha
        omega

theorem isFunction_of_expression {n : Node} (h : n.kind ∈ Kind.functionExpressions) : n.isFunction = true :=
  decide_eq_true (List.mem_append_left _ h)

theorem not_function_of_block {n : Node} (h : n.kind ∈ Kind.blocks) : n.isFunction = false := by
  have hall : ∀ k ∈ Kind.blocks, decide (k ∈ Kind.functions) = false := by decide
  exact hall n.kind h

theorem innerBinds_cases {scope : Site} {name : String} (h : scope.node.innerBinds name = true) :
    scope.Binds name ∨ scope.kind ∈ Kind.blocks ∧ ∃ d ∈ scope.region, name ∈ d.node.ownNames := by
  rw [Node.innerBinds] at h
  split at h
  · next hf =>
      rw [Bool.or_eq_true, Bool.and_eq_true, decide_eq_true_eq, decide_eq_true_eq] at h
      rcases h with h | h
      · exact Or.inl (Or.inl ⟨hf, h⟩)
      · exact Or.inl (Or.inr (Or.inl h))
  · rw [Bool.and_eq_true, decide_eq_true_eq, decide_eq_true_eq] at h
    exact Or.inr ⟨h.1, mem_declaredNames.mp h.2⟩

theorem innerBinds_of_region {scope d : Site} {name : String} (hk : scope.kind ∈ Kind.blocks) (hd : d ∈ scope.region)
    (hn : name ∈ d.node.ownNames) : scope.node.innerBinds name = true := by
  have hf : scope.node.isFunction = false := not_function_of_block hk
  have hm := mem_declaredNames.mpr ⟨d, hd, hn⟩
  rw [Node.innerBinds, hf]
  simp only [Bool.false_eq_true, ↓reduceIte, Bool.and_eq_true, decide_eq_true_eq]
  exact ⟨hk, hm⟩

theorem binds_cases {f : Site} {name : String} (hf : f.kind ∈ Kind.functionExpressions)
    (h : f.node.binds name = true) :
    f.Binds name ∨ ∃ body, f.child? "body" = some body ∧ ∃ d ∈ body.region, name ∈ d.node.ownNames := by
  rw [Node.binds, Node.bodyNames, Bool.or_eq_true, decide_eq_true_eq, decide_eq_true_eq, List.mem_append] at h
  rcases h with (h | h) | h
  · obtain ⟨b, hb, hn⟩ := List.mem_flatMap.mp h
    rw [Option.mem_toList, ← map_node_child?, Option.map_eq_some_iff] at hb
    obtain ⟨body, hbody, rfl⟩ := hb
    exact Or.inr ⟨body, hbody, mem_declaredNames.mp hn⟩
  · obtain ⟨m, hm, rfl⟩ := List.mem_map.mp h
    refine Or.inl (Or.inr (Or.inl ⟨hf, ?_⟩))
    rw [Node.isCalled, Option.mem_toList.mp hm, Option.any_some, beq_self_eq_true]
  · exact Or.inl (Or.inl ⟨isFunction_of_expression hf, h⟩)

theorem binds_of_region {f body d : Site} {name : String} (hb : f.child? "body" = some body) (hd : d ∈ body.region)
    (hn : name ∈ d.node.ownNames) : f.node.binds name = true := by
  have hm : name ∈ (f.node.child? "body").toList.flatMap Node.declaredNames := by
    rw [← map_node_child?, hb]
    exact List.mem_flatMap.mpr ⟨body.node, Option.mem_toList.mpr rfl, mem_declaredNames.mpr ⟨d, hd, hn⟩⟩
  rw [Node.binds, Node.bodyNames, Bool.or_eq_true, decide_eq_true_eq]
  exact Or.inl (List.mem_append_left _ hm)

/-! ## Exemption and binding -/

variable {f r : Site}

/-- A declaration in sight of a read makes it exempt, whether it reaches the read or not. -/
theorem boundWithin_of_stray (hf : f.kind ∈ Kind.functionExpressions) (hr : r ∈ f.functionReads) {d : Site}
    (h : f.Stray r d) : f.boundWithin r = true := by
  obtain ⟨c, hc, hrc⟩ := child_of_functionReads hr
  obtain ⟨scope, hs, hd⟩ := h.inSight
  rw [boundWithin_iff hc hrc]
  rcases hs with hbody | ⟨hk, ha, hw⟩
  · exact Or.inr (binds_of_region hbody hd h.declares)
  · have hne : scope ≠ f := by
      rintro rfl
      exact Bool.noConfusion ((isFunction_of_expression hf).symm.trans (not_function_of_block hk))
    exact Or.inl ⟨scope, ha, mem_walk_of_between hc hrc ha hw hne, innerBinds_of_region hk hd h.declares⟩

/-- An exempt read is bound by a scope around it, or some declaration is in sight that does not reach it. -/
theorem bound_or_stray (hf : f.kind ∈ Kind.functionExpressions) (hr : r ∈ f.functionReads)
    (h : f.boundWithin r = true) : f.Bound r ∨ ∃ d, f.Stray r d := by
  obtain ⟨c, hc, hrc⟩ := child_of_functionReads hr
  have hcf : ∀ {w}, w ∈ c.walk → w ∈ f.walk := fun hw => mem_walk.mpr (Or.inr ⟨c, hc, hw⟩)
  -- a declaration in sight either has a home around the read or is stray
  have hdecl : ∀ {scope d : Site}, scope ∈ f.walk →
      (f.child? "body" = some scope ∨ scope.kind ∈ Kind.blocks ∧ f.Encloses r scope) → d ∈ scope.region →
      r.text ∈ d.node.ownNames → f.Bound r ∨ ∃ d, f.Stray r d := by
    intro scope d hw hs hd hn
    by_cases hh : ∃ home ∈ d.homes, f.Encloses r home
    · obtain ⟨home, hh, he⟩ := hh
      exact Or.inl (bound_of_home (mem_walk_trans hw (mem_walk_of_region hd)) hn hh he)
    · exact Or.inr ⟨d, hn, ⟨scope, hs, hd⟩, fun home hm he => hh ⟨home, hm, he⟩⟩
  rcases (boundWithin_iff hc hrc).mp h with ⟨scope, ha, hw, hb⟩ | hb
  · rcases innerBinds_cases hb with hb | ⟨hk, d, hd, hn⟩
    · exact Or.inl ⟨scope, ha, hcf hw, hb⟩
    · exact hdecl (hcf hw) (Or.inr ⟨hk, ha, hcf hw⟩) hd hn
  · rcases binds_cases hf hb with hb | ⟨body, hbody, d, hd, hn⟩
    · exact Or.inl ⟨f, mem_ancestors_of_below hc hrc, self_mem_walk f, hb⟩
    · have hw : body ∈ f.walk := mem_walk.mpr (Or.inr ⟨body, mem_of_child? hbody, self_mem_walk body⟩)
      exact hdecl hw (Or.inl hbody) hd hn

/-- The exemption of a read is justified, by a scope of the function that encloses the read and binds its name,
exactly when there is such a scope or no stray declaration of the name: stray declarations are all that the test gets
wrong. -/
theorem exemption_justified_iff (f r : Site) (hf : f.kind ∈ Kind.functionExpressions) (hr : r ∈ f.functionReads) :
    (f.boundWithin r = true → f.Bound r) ↔ (f.Bound r ∨ ∀ d, ¬ f.Stray r d) := by
  constructor
  · intro h
    by_cases hb : f.Bound r
    · exact Or.inl hb
    · exact Or.inr fun d hd => hb (h (boundWithin_of_stray hf hr hd))
  · rintro (hb | hno) h
    · exact hb
    · rcases bound_or_stray hf hr h with hb | ⟨d, hd⟩
      · exact hb
      · exact absurd hd (hno d)

end Site

namespace Sample

/-- `{ let x = 1; }`. -/
def innerLet : Node :=
  .mk { kind := "statement_block", leading := " " }
    [.token "\x7b",
      .mk { kind := Kind.lexicalDeclaration, leading := " " }
        [.token "let",
          .mk { kind := Kind.declarator, leading := " " }
            [.identifier "x" "" (some "name"), .token "=" " ",
              .mk { kind := Kind.number, text := "1", field := some "value", leading := " " } []],
          .token ";"],
      .token "\x7d" " "]

/-- `return x;`. -/
def returnX : Node :=
  .mk { kind := "return_statement", leading := " " } [.token "return", .identifier "x" " ", .token ";"]

/-- `{ { let x = 1; } return x; }`. -/
def lateBody : Node :=
  .mk { kind := "statement_block", field := some "body", leading := " " }
    [.token "\x7b", innerLet, returnX, .token "\x7d" " "]

/-- The function `() => { { let x = 1; } return x; }`. -/
def late : Site := .root (callback lateBody)

/-- The read of `x` that `late` returns. -/
def lateRead : Site := ((late.descend lateBody 2).descend returnX 2).descend (.identifier "x" " ") 1

/-- The inner declaration makes the returned `x` exempt though it does not reach it. -/
theorem late_exemption_unjustified :
    late.kind ∈ Kind.functionExpressions ∧ lateRead ∈ late.functionReads ∧
      ¬ (late.boundWithin lateRead = true → late.Bound lateRead) := by
  have hf : late.kind ∈ Kind.functionExpressions := by decide
  have hr : lateRead ∈ late.functionReads := by decide +kernel
  refine ⟨hf, hr, ?_⟩
  rw [Site.exemption_justified_iff late lateRead hf hr]
  rintro (hb | hno)
  · exact absurd hb (by decide +kernel)
  · have hd : ∃ d ∈ (late.descend lateBody 2).region, lateRead.text ∈ d.node.ownNames ∧
        ∀ home ∈ d.homes, ¬ late.Encloses lateRead home := by decide +kernel
    obtain ⟨d, hd, hn, hh⟩ := hd
    exact hno d ⟨hn, ⟨_, Or.inl rfl, hd⟩, hh⟩

/-- Not every exempt read is bound by a scope around it. -/
theorem exempt_not_bound :
    ¬ ∀ f r : Site, f.kind ∈ Kind.functionExpressions → r ∈ f.functionReads → f.boundWithin r = true → f.Bound r := by
  intro h
  have hb : late.Bound lateRead := h late lateRead (by decide) (by decide +kernel) (by decide +kernel)
  exact absurd hb (by decide +kernel)

end Sample

end AttrHoist
