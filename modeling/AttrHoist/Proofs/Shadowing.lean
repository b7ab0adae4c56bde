import AttrHoist.Proofs.Exemption
import AttrHoist.Proofs.Moved

/-!
# Names that the module gives

The lexical resolver takes a name for an import or a constant of the module when nothing between the identifier and the
module binds it. Only the own names of some classes escape it: it finds them among the declarations of a function's
body or of a block, and a class need not stand in one.
-/

namespace AttrHoist

def Kind.classes : List Kind := classExpression :: classDeclarations

/-! ## What binds a name for the code inside -/

namespace Site

/-- The sites whose declarations belong to a scope: those in the body of a function or in a block, outside of further
functions. -/
def extent (scope : Site) : List Site :=
  if scope.node.isFunction then (scope.child? "body").toList.flatMap region
  else if scope.kind ∈ Kind.blocks then scope.region
  else []

/-- A name is bound for what a site encloses. -/
inductive Shadows (scope : Site) (name : String) : Prop
  | parameter (hf : scope.node.isFunction = true) (h : name ∈ scope.node.parameterNames)
  | functionName (hk : scope.kind ∈ Kind.functionExpressions) (h : scope.node.isCalled name = true)
  | className (hk : scope.kind ∈ Kind.classes) (h : scope.node.isCalled name = true)
  | declared {d : Site} (hd : d ∈ scope.extent) (h : name ∈ d.node.ownNames)

/-- A class that is not among the declarations of any scope around it. -/
structure Overlooked (c : Site) : Prop where
  isClass : c.kind ∈ Kind.classes
  undeclared : ∀ scope ∈ c.ancestors, c ∉ scope.extent

/-! ## Scopes and their answers -/

variable {scope : Site} {name : String}

theorem not_class_of_function {n : Node} (h : n.isFunction = true) : n.kind ∉ Kind.classes := by
  have hall : ∀ k ∈ Kind.functions, k ∉ Kind.classes := by decide
  exact hall n.kind (of_decide_eq_true h)

theorem not_class_of_block {n : Node} (h : n.kind ∈ Kind.blocks) : n.kind ∉ Kind.classes := by
  have hall : ∀ k ∈ Kind.blocks, k ∉ Kind.classes := by decide
  exact hall n.kind h

theorem extent_of_function (hf : scope.node.isFunction = true) :
    scope.extent = (scope.child? "body").toList.flatMap region := if_pos hf

theorem extent_of_block (hk : scope.kind ∈ Kind.blocks) : scope.extent = scope.region := by
  have hf : scope.node.isFunction = false := not_function_of_block hk
  rw [extent, hf, if_neg Bool.false_ne_true, if_pos hk]

/-- Only functions and blocks have declarations of their own. -/
theorem scope_of_extent {d : Site} (hd : d ∈ scope.extent) :
    scope.node.isFunction = true ∨ scope.kind ∈ Kind.blocks := by
  unfold extent at hd
  split at hd
  · next hf => exact Or.inl hf
  split at hd
  · next hk => exact Or.inr hk
  · cases hd

theorem body_declares_iff (hf : scope.node.isFunction = true) :
    (scope.node.child? "body").any (name ∈ ·.declaredNames) = true ↔ ∃ d ∈ scope.extent, name ∈ d.node.ownNames := by
  rw [extent_of_function hf, ← map_node_child?]
  cases scope.child? "body" with
  | none => simp
  | some body =>
      simp only [Option.map_some, Option.any_some, decide_eq_true_eq, Option.toList_some, List.flatMap_singleton]
      exact mem_declaredNames

theorem block_declares_iff (hk : scope.kind ∈ Kind.blocks) :
    name ∈ scope.node.declaredNames ↔ ∃ d ∈ scope.extent, name ∈ d.node.ownNames := by
  rw [extent_of_block hk]
  exact mem_declaredNames

theorem isSome_functionBinding? {f : Node} : (f.functionBinding? name).isSome = true ↔
    name ∈ f.parameterNames ∨ (f.kind ∈ Kind.functionExpressions ∧ f.isCalled name = true) ∨
      (f.child? "body").any (name ∈ ·.declaredNames) = true := by
  unfold Node.functionBinding?
  split_ifs with hp hn hb
  · exact ⟨fun _ => Or.inl hp, fun _ => rfl⟩
  · exact ⟨fun _ => Or.inr (Or.inl hn), fun _ => rfl⟩
  · exact ⟨fun _ => Or.inr (Or.inr hb), fun _ => rfl⟩
  · simp [hp, hn, hb]

/-- What binds a name is a function, a block or a class of that name. -/
theorem Shadows.form (h : scope.Shadows name) :
    scope.node.isFunction = true ∨ scope.kind ∈ Kind.blocks ∨
      scope.kind ∈ Kind.classes ∧ scope.node.isCalled name = true := by
  cases h with
  | parameter hf _ => exact Or.inl hf
  | functionName hk _ => exact Or.inl (isFunction_of_expression hk)
  | className hk h => exact Or.inr (Or.inr ⟨hk, h⟩)
  | declared hd _ => exact (scope_of_extent hd).imp_right Or.inl

theorem Shadows.not_program (h : scope.Shadows name) : scope.kind ≠ Kind.program := by
  have hall : Kind.program ∉ Kind.functions ∧ Kind.program ∉ Kind.blocks ∧ Kind.program ∉ Kind.classes := by decide
  intro hp
  rcases h.form with hf | hk | ⟨hk, _⟩
  · exact hall.1 (hp ▸ of_decide_eq_true hf)
  · exact hall.2.1 (hp ▸ hk)
  · exact hall.2.2 (hp ▸ hk)

/-- A class that binds a name declares it. -/
theorem Shadows.ownNames (h : scope.Shadows name) (hc : scope.kind ∈ Kind.classes) : name ∈ scope.node.ownNames := by
  have hall : ∀ k ∈ Kind.classes, k ≠ Kind.declarator ∧ k ∈ Kind.namedDeclarations := by decide
  obtain ⟨hd, hn⟩ := hall scope.node.kind hc
  rcases h.form with hf | hk | ⟨_, hcalled⟩
  · exact absurd hc (not_class_of_function hf)
  · exact absurd hc (not_class_of_block hk)
  · obtain ⟨m, hm, he⟩ := (Option.any_eq_true _ _).mp hcalled
    rw [Node.ownNames, if_neg hd, if_pos hn, hm, ← beq_iff_eq.mp he]
    exact List.mem_singleton_self _

theorem shadows_function_iff (hf : scope.node.isFunction = true) :
    (scope.node.functionBinding? name).isSome = true ↔ scope.Shadows name := by
  rw [isSome_functionBinding?, body_declares_iff hf]
  constructor
  · rintro (h | ⟨hk, h⟩ | ⟨d, hd, h⟩)
    · exact .parameter hf h
    · exact .functionName hk h
    · exact .declared hd h
  · intro hs
    cases hs with
    | parameter _ h => exact Or.inl h
    | functionName hk h => exact Or.inr (Or.inl ⟨hk, h⟩)
    | className hk _ => exact absurd hk (not_class_of_function hf)
    | declared hd h => exact Or.inr (Or.inr ⟨_, hd, h⟩)

theorem shadows_block_iff (hk : scope.kind ∈ Kind.blocks) : name ∈ scope.node.declaredNames ↔ scope.Shadows name := by
  rw [block_declares_iff hk]
  constructor
  · rintro ⟨d, hd, h⟩
    exact .declared hd h
  · intro hs
    have hf : ¬ scope.node.isFunction = true := by
      rw [not_function_of_block hk]
      exact Bool.false_ne_true
    cases hs with
    | parameter hf' _ => exact absurd hf' hf
    | functionName hk' _ => exact absurd (isFunction_of_expression hk') hf
    | className hk' _ => exact absurd hk' (not_class_of_block hk)
    | declared hd h => exact ⟨_, hd, h⟩

/-- Below the program a scope answers for the names that it binds, the own name of a class apart. -/
theorem isSome_scopeBinding?_iff (hp : scope.kind ≠ Kind.program) :
    (scope.node.scopeBinding? name).isSome = true ↔ scope.Shadows name ∧ scope.kind ∉ Kind.classes := by
  unfold Node.scopeBinding?
  by_cases hf : scope.node.isFunction = true
  · have hc : scope.kind ∉ Kind.classes := not_class_of_function hf
    rw [if_pos hf, shadows_function_iff hf, and_iff_left hc]
  by_cases hk : scope.node.kind ∈ Kind.blocks
  · have hc : scope.kind ∉ Kind.classes := not_class_of_block hk
    rw [if_neg hf, if_pos hk, and_iff_left hc, ← shadows_block_iff hk]
    split
    · next h => exact ⟨fun _ => h, fun _ => rfl⟩
    · next h => exact ⟨nofun, fun hm => absurd hm h⟩
  · rw [if_neg hf, if_neg hk, if_neg (show scope.node.kind ≠ _ from hp)]
    exact ⟨nofun, fun h => absurd ((h.1.form.resolve_left hf).resolve_left hk).1 h.2⟩

theorem scopeBinding?_eq_none_iff (hp : scope.kind ≠ Kind.program) :
    scope.node.scopeBinding? name = none ↔ (scope.Shadows name → scope.kind ∈ Kind.classes) := by
  rw [← Option.not_isSome_iff_eq_none, isSome_scopeBinding?_iff hp, not_and, Classical.not_not]

end Site

/-! ## Statements of a module -/

namespace Node

/-- How a statement binds a name at the level of the module. -/
inductive BindsAs (statement : Node) (name : String) : Declaration → Prop
  | imported (hk : statement.kind = Kind.importStatement) (h : name ∈ statement.importNames) :
      BindsAs statement name .importBinding
  | constant (hk : statement.kind = Kind.lexicalDeclaration) (h : name ∈ statement.declaratorNames)
      (hc : statement.isConst = true) : BindsAs statement name .moduleConstant
  | changeable (hk : statement.kind = Kind.lexicalDeclaration) (h : name ∈ statement.declaratorNames)
      (hc : statement.isConst = false) : BindsAs statement name .other
  | called (hk : statement.kind ∈ Kind.namedDeclarations) (h : statement.isCalled name = true) :
      BindsAs statement name .other
  | inside (hi : statement.kind ≠ Kind.importStatement) (hl : statement.kind ≠ Kind.lexicalDeclaration)
      (hn : statement.kind ∉ Kind.namedDeclarations) (h : name ∈ statement.declaredNames) :
      BindsAs statement name .other

/-- The first statement of a module, taken out of its export if it stands in one, that binds a name, binds it in this
way. -/
def FirstBinds (t : Node) (name : String) (d : Declaration) : Prop :=
  ∃ before statement after, t.namedChildren.filterMap exported? = before ++ statement :: after ∧
    statement.BindsAs name d ∧ ∀ other ∈ before, ∀ e, ¬ other.BindsAs name e

variable {statement t : Node} {name : String} {d : Declaration}

theorem statementBinding?_eq_some_iff : statement.statementBinding? name = some d ↔ statement.BindsAs name d := by
  constructor
  · intro h
    unfold statementBinding? at h
    split at h
    · next hi =>
        split at h
        · next hm => cases h; exact .imported hi hm
        · cases h
    split at h
    · next hl =>
        split at h
        · next hm =>
            cases hc : statement.isConst with
            | true => rw [hc] at h; cases h; exact .constant hl hm hc
            | false => rw [hc] at h; cases h; exact .changeable hl hm hc
        · cases h
    split at h
    · next hn =>
        split at h
        · next hm => cases h; exact .called hn hm
        · cases h
    split at h
    · next hi hl hn hm => cases h; exact .inside hi hl hn hm
    · cases h
  · intro h
    have hother : Kind.lexicalDeclaration ≠ Kind.importStatement := by decide
    have hnamed : ∀ k ∈ Kind.namedDeclarations, k ≠ Kind.importStatement ∧ k ≠ Kind.lexicalDeclaration := by decide
    unfold statementBinding?
    cases h with
    | imported hk h => rw [if_pos hk, if_pos h]
    | constant hk h hc => rw [if_neg (hk ▸ hother), if_pos hk, if_pos h, hc]; rfl
    | changeable hk h hc => rw [if_neg (hk ▸ hother), if_pos hk, if_pos h, hc]; rfl
    | called hk h => rw [if_neg (hnamed _ hk).1, if_neg (hnamed _ hk).2, if_pos hk, if_pos h]
    | inside hi hl hn h => rw [if_neg hi, if_neg hl, if_neg hn, if_pos h]

theorem statementBinding?_eq_none_iff : statement.statementBinding? name = none ↔ ∀ e, ¬ statement.BindsAs name e := by
  simp only [← statementBinding?_eq_some_iff, Option.eq_none_iff_forall_ne_some, ne_eq]

theorem moduleBinding_eq_iff (hd : d ≠ .unresolved) : t.moduleBinding name = d ↔ t.FirstBinds name d := by
  have hgetD : t.moduleBinding name = d ↔ firstBinding? t.namedChildren name = some d := by
    rw [moduleBinding_eq]
    cases firstBinding? t.namedChildren name with
    | none => simpa using hd.symm
    | some e => simp
  rw [hgetD, firstBinding?, List.findSome?_eq_some_iff]
  simp only [statementBinding?_eq_some_iff, statementBinding?_eq_none_iff]
  rfl

/-! ## Fixed declarations -/

theorem IsModule.ancestors_eq (ht : t.IsModule) {r : Site} (hr : r ∈ t.sites) (hne : r ≠ .root t) :
    ∃ q, r.ancestors = q ++ [Site.root t] ∧ ∀ a ∈ q, a.kind ≠ Kind.program := by
  obtain ⟨c, hc, hrc⟩ := (Site.mem_walk.mp hr).resolve_left hne
  obtain ⟨q, hq, hqc⟩ := Site.ancestors_split hrc
  rw [Site.ancestors_of_child hc] at hq
  exact ⟨q, hq, fun a ha => ht.not_program hc (hqc a ha)⟩

/-- A fixed declaration is the module's, and all scopes on the way there leave the name open. -/
theorem IsModule.lexicalDeclaration_eq_iff (ht : t.IsModule) {r : Site} (hr : r ∈ t.sites) (hne : r ≠ .root t)
    (hd : d.isFixed = true) :
    r.lexicalDeclaration.value = d ↔
      (∀ a ∈ r.ancestors, a.kind ≠ Kind.program → a.node.scopeBinding? r.text = none) ∧ t.moduleBinding r.text = d := by
  obtain ⟨q, hq, hqp⟩ := ht.ancestors_eq hr hne
  have hroot : (Site.root t).node.scopeBinding? r.text = some (t.moduleBinding r.text) :=
    scopeBinding?_program ht.kind r.text
  rw [Site.value_lexicalDeclaration, hq, List.findSome?_append, List.findSome?_cons, hroot]
  cases hs : q.findSome? (·.node.scopeBinding? r.text) with
  | none =>
      have hall := List.findSome?_eq_none_iff.mp hs
      refine ⟨fun h => ⟨?_, h⟩, fun h => h.2⟩
      intro a ha hp
      rcases List.mem_append.mp ha with ha | ha
      · exact hall a ha
      · rw [List.mem_singleton.mp ha] at hp
        exact absurd ht.kind hp
  | some e =>
      obtain ⟨a, ha, hb⟩ := List.exists_of_findSome?_eq_some hs
      constructor
      · intro h
        have he : e.isFixed = true := by
          rw [show e = d from h]
          exact hd
        exact absurd (scopeBinding?_of_fixed hb he).1 (hqp a ha)
      · rintro ⟨h, _⟩
        rw [h a (List.mem_append_left _ ha) (hqp a ha)] at hb
        cases hb

end Node

/-- The lexical resolver gives a name to an import or to a constant of the module exactly when the first statement of
the module that binds the name is an import or declares a constant, and whatever binds the name around the identifier
is a class that no scope around it counts among its declarations. -/
theorem Site.fixed_iff_shadowed_by_overlooked (t : Node) (ht : t.IsModule) (r : Site) (hr : r ∈ t.sites)
    (hne : r ≠ .root t) (d : Declaration) (hd : d.isFixed = true) :
    r.lexicalDeclaration.value = d ↔
      (∀ scope ∈ r.ancestors, scope.Shadows r.text → scope.Overlooked) ∧ t.FirstBinds r.text d := by
  have hres : d ≠ .unresolved := by
    rintro rfl
    cases hd
  rw [ht.lexicalDeclaration_eq_iff hr hne hd, Node.moduleBinding_eq_iff hres]
  refine and_congr_left' ⟨?_, ?_⟩
  · intro hopen scope hscope hs
    have hclass : ∀ {a : Site}, a ∈ r.ancestors → a.Shadows r.text → a.kind ∈ Kind.classes := fun ha hs =>
      (scopeBinding?_eq_none_iff hs.not_program).mp (hopen _ ha hs.not_program) hs
    have hk := hclass hscope hs
    refine ⟨hk, fun outer houter hmem => ?_⟩
    -- a scope that counts the class among its declarations would have answered
    have hout := hclass (ancestors_trans hscope houter) (.declared hmem (hs.ownNames hk))
    rcases scope_of_extent hmem with hf | hb
    · exact not_class_of_function hf hout
    · exact not_class_of_block hb hout
  · intro hs a ha hp
    exact (scopeBinding?_eq_none_iff hp).mpr fun h => (hs a ha h).isClass

namespace Sample

/-- `const C = class B { m() { return B; } };`. -/
def namedClass : Node :=
  .mk { kind := Kind.lexicalDeclaration, leading := "\n" }
    [.token Kind.constKeyword,
      .mk { kind := Kind.declarator, leading := " " }
        [.identifier "C" "" (some "name"), .token "=" " ",
          .mk { kind := Kind.classExpression, field := some "value", leading := " " }
            [.token "class", .mk { kind := "type_identifier", text := "B", field := some "name", leading := " " } [],
              .mk { kind := "class_body", field := some "body", leading := " " }
                [.token "\x7b",
                  .mk { kind := "method_definition", leading := " " }
                    [.mk { kind := "property_identifier", text := "m", field := some "name" } [], noParameters,
                      .mk { kind := "statement_block", field := some "body", leading := " " }
                        [.token "\x7b",
                          .mk { kind := "return_statement", leading := " " }
                            [.token "return", .identifier "B" " ", .token ";"],
                          .token "\x7d" " "]],
                  .token "\x7d" " "]]],
      .token ";"]

/-- `import { B } from 'x'; const C = class B { m() { return B; } };`. -/
def classModule : Node := .mk { kind := Kind.program } [importB, namedClass]

/-- The `B` that the method returns. -/
def classRead : Site := ((Site.root classModule).follow [1, 1, 2, 2, 1, 2, 1, 1]).getD (.root classModule)

/-- The method's `B` counts as the import, so the class `B` around it is overlooked. -/
theorem classRead_is_import :
    classModule.IsModule ∧ classRead ∈ classModule.sites ∧ classRead ≠ .root classModule ∧
      classRead.lexicalDeclaration.value = .importBinding ∧
      (∀ scope ∈ classRead.ancestors, scope.Shadows classRead.text → scope.Overlooked) ∧
      classModule.FirstBinds classRead.text .importBinding := by
  have ht : classModule.IsModule := ⟨rfl, by decide +kernel⟩
  have hr : classRead ∈ classModule.sites := by decide +kernel
  have hne : classRead ≠ .root classModule := by decide +kernel
  have hd : classRead.lexicalDeclaration.value = .importBinding := by decide +kernel
  have h := (Site.fixed_iff_shadowed_by_overlooked classModule ht classRead hr hne .importBinding rfl).mp hd
  exact ⟨ht, hr, hne, hd, h.1, h.2⟩

/-- A name that counts as the module's may yet be bound around the identifier. -/
theorem fixed_but_shadowed :
    ¬ ∀ (t : Node) (r : Site), t.IsModule → r ∈ t.sites → r.kind = Kind.identifier →
      r.lexicalDeclaration.value.isFixed = true → ∀ scope ∈ r.ancestors, ¬ scope.Shadows r.text := by
  intro h
  have hno := h classModule classRead ⟨rfl, by decide +kernel⟩ (by decide +kernel) (by decide +kernel) (by decide +kernel)
  have hclass : ∃ c ∈ classRead.ancestors, c.kind ∈ Kind.classes ∧ c.node.isCalled classRead.text = true := by
    decide +kernel
  obtain ⟨c, hc, hk, hcalled⟩ := hclass
  exact hno c hc (.className hk hcalled)

end Sample

end AttrHoist
