import AttrHoist.Scope.Resolve
import AttrHoist.Proofs.Lemmas.Traversal
import Mathlib.Data.List.Forall2

/-!
# Trees in which the same names are bound

A relation between nodes under which kinds, texts and the parts looked at by the collectors of names correspond.
Related nodes then bind and declare the same names, whatever else differs between them.
-/

namespace AttrHoist

/-! ## Related lists and options -/

section
variable {α β γ : Type} {R : α → β → Prop}

theorem rel_find? {p : α → Bool} {q : β → Bool} {as : List α} {bs : List β} (h : List.Forall₂ R as bs)
    (hpq : ∀ a b, R a b → p a = q b) : Option.Rel R (as.find? p) (bs.find? q) := by
  induction h with
  | nil => exact .none
  | @cons a b as bs hab _ ih =>
      rw [List.find?_cons, List.find?_cons, hpq a b hab]
      cases q b with
      | true => exact .some hab
      | false => exact ih

theorem rel_filter {p : α → Bool} {q : β → Bool} {as : List α} {bs : List β} (h : List.Forall₂ R as bs)
    (hpq : ∀ a b, R a b → p a = q b) : List.Forall₂ R (as.filter p) (bs.filter q) :=
  List.rel_filter (fun a b hab => iff_of_eq (congrArg (· = true) (hpq a b hab))) h

theorem rel_flatMap {f : α → List γ} {g : β → List γ} {as : List α} {bs : List β} (h : List.Forall₂ R as bs)
    (hfg : ∀ a ∈ as, ∀ b, R a b → f a = g b) : as.flatMap f = bs.flatMap g := by
  induction h with
  | nil => rfl
  | @cons a b as bs hab _ ih =>
      rw [List.flatMap_cons, List.flatMap_cons, hfg a (by simp) b hab, ih fun a ha => hfg a (by simp [ha])]

theorem forall₂_flatMap {γ' : Type} {S : γ → γ' → Prop} {f : α → List γ} {g : β → List γ'} {as : List α} {bs : List β}
    (h : List.Forall₂ R as bs) (hfg : ∀ a ∈ as, ∀ b, R a b → List.Forall₂ S (f a) (g b)) :
    List.Forall₂ S (as.flatMap f) (bs.flatMap g) := by
  induction h with
  | nil => exact .nil
  | @cons a b as bs hab _ ih =>
      rw [List.flatMap_cons, List.flatMap_cons]
      exact List.rel_append (hfg a (by simp) b hab) (ih fun a ha => hfg a (by simp [ha]))

theorem rel_filterMap {f : α → Option γ} {g : β → Option γ} {as : List α} {bs : List β} (h : List.Forall₂ R as bs)
    (hfg : ∀ a ∈ as, ∀ b, R a b → f a = g b) : as.filterMap f = bs.filterMap g := by
  induction h with
  | nil => rfl
  | @cons a b as bs hab _ ih =>
      rw [List.filterMap_cons, List.filterMap_cons, hfg a (by simp) b hab, ih fun a ha => hfg a (by simp [ha])]

theorem rel_any {p : α → Bool} {q : β → Bool} {as : List α} {bs : List β} (h : List.Forall₂ R as bs)
    (hpq : ∀ a b, R a b → p a = q b) : as.any p = bs.any q := by
  induction h with
  | nil => rfl
  | cons hab _ ih => rw [List.any_cons, List.any_cons, hpq _ _ hab, ih]

theorem rel_findSome? {f : α → Option γ} {g : β → Option γ} {as : List α} {bs : List β} (h : List.Forall₂ R as bs)
    (hfg : ∀ a b, R a b → f a = g b) : as.findSome? f = bs.findSome? g := by
  induction h with
  | nil => rfl
  | cons hab _ ih => rw [List.findSome?_cons, List.findSome?_cons, hfg _ _ hab, ih]

theorem rel_index {as : List α} {bs : List β} (h : List.Forall₂ R as bs) (i : Nat) : Option.Rel R as[i]? bs[i]? := by
  induction h generalizing i with
  | nil => exact .none
  | cons hab _ ih =>
      cases i with
      | zero => exact .some hab
      | succ i => exact ih i

theorem rel_toList {a : Option α} {b : Option β} (h : Option.Rel R a b) : List.Forall₂ R a.toList b.toList := by
  cases h with
  | none => exact .nil
  | some h => exact .cons h .nil

theorem rel_none_left {b : Option β} (h : Option.Rel R none b) : b = none := by
  cases h; rfl

theorem rel_some_left {a : α} {b : Option β} (h : Option.Rel R (some a) b) : ∃ c, b = some c ∧ R a c := by
  cases h with
  | some h => exact ⟨_, rfl, h⟩

theorem rel_some_right {a : Option α} {b : β} (h : Option.Rel R a (some b)) : ∃ c, a = some c ∧ R c b := by
  cases h with
  | some h => exact ⟨_, rfl, h⟩

theorem rel_getElem? {as : List α} {bs : List β} (h : List.Forall₂ R as bs) {i : Nat} {b : β} (hb : bs[i]? = some b) :
    ∃ a, as[i]? = some a ∧ R a b :=
  rel_some_right (hb ▸ rel_index h i)

theorem rel_getElem?_left {as : List α} {bs : List β} (h : List.Forall₂ R as bs) {i : Nat} {a : α}
    (ha : as[i]? = some a) : ∃ b, bs[i]? = some b ∧ R a b :=
  rel_some_left (ha ▸ rel_index h i)

theorem rel_bind {α' β' : Type} {S : α' → β' → Prop} {a : Option α} {b : Option β} {f : α → Option α'} {g : β → Option β'}
    (h : Option.Rel R a b) (hfg : ∀ x y, R x y → Option.Rel S (f x) (g y)) : Option.Rel S (a.bind f) (b.bind g) := by
  cases h with
  | none => exact .none
  | some h => exact hfg _ _ h

theorem rel_map {f : α → γ} {g : β → γ} {a : Option α} {b : Option β} (h : Option.Rel R a b)
    (hfg : ∀ a b, R a b → f a = g b) : a.map f = b.map g := by
  cases h with
  | none => rfl
  | some h => exact congrArg some (hfg _ _ h)

theorem rel_any? {p : α → Bool} {q : β → Bool} {a : Option α} {b : Option β} (h : Option.Rel R a b)
    (hpq : ∀ a b, R a b → p a = q b) : a.any p = b.any q := by
  cases h with
  | none => rfl
  | some h => exact hpq _ _ h

theorem rel_or {a a' : Option α} {b b' : Option β} (h : Option.Rel R a b) (h' : Option.Rel R a' b') :
    Option.Rel R (a.or a') (b.or b') := by
  cases h with
  | none => exact h'
  | some h => exact .some h

end

/-! ## Nodes with the same parts -/

namespace Kind

/-- Kinds of nodes whose children may stand in attribute position. The collectors of names look at the children
of such a node only when they enter it. -/
def holders : List Kind := [markupContainer, ternary]

theorem not_holder {k : Kind} {ks : List Kind} (h : k ∈ ks) (hks : ∀ k ∈ ks, k ∉ holders) : k ∉ holders :=
  hks k h

/-- Kinds of nodes whose named children the collectors of names do not go through. -/
def closed : List Kind := holders ++ functions

end Kind

/-- A relation under which the parts of nodes that the collectors of names look at correspond. The body of a function is
not among them. -/
structure SameParts (R : Node → Node → Prop) : Prop where
  kind : ∀ {n m}, R n m → n.kind = m.kind
  text : ∀ {n m}, R n m → n.text = m.text
  child? : ∀ {n m}, R n m → n.kind ∉ Kind.holders → ∀ {f}, f ≠ "body" → Option.Rel R (n.child? f) (m.child? f)
  namedChildren : ∀ {n m}, R n m → n.kind ∉ Kind.closed → List.Forall₂ R n.namedChildren m.namedChildren
  isConst : ∀ {n m}, R n m → n.kind = Kind.lexicalDeclaration → n.isConst = m.isConst

/-- A narrower relation that also keeps the names declared in a piece of code. -/
structure SameNames (R D : Node → Node → Prop) : Prop where
  similar : ∀ {n m}, D n m → R n m
  declaredNames : ∀ {n m}, D n m → n.declaredNames = m.declaredNames
  declaration : ∀ {n m}, D n m → n.kind = Kind.exportStatement →
    Option.Rel D (n.child? "declaration") (m.child? "declaration")

theorem Node.patternNames_eq (n : Node) :
    n.patternNames = if n.isBinder then [n.text] else n.patternParts.flatMap patternNames := by
  rw [patternNames]
  simp [List.flatMap_subtype]

/-- A node declares what it declares by itself and, unless it is a function, what its children declare. -/
theorem Node.declaredNames_eq (n : Node) :
    n.declaredNames = n.ownNames ++ if n.isFunction then [] else n.children.flatMap declaredNames := by
  rw [declaredNames, visit_singleton, List.flatMap_cons]
  congr 1
  cases n.isFunction with
  | true => rfl
  | false =>
      rw [if_pos (by rfl), if_neg Bool.false_ne_true, visit_eq_flatMap, List.flatMap_assoc]
      rfl

namespace SameParts
variable {R : Node → Node → Prop} (hR : SameParts R) {n m : Node}
include hR

theorem isFunction (h : R n m) : n.isFunction = m.isFunction := by
  rw [Node.isFunction, Node.isFunction, hR.kind h]

theorem isBinder (h : R n m) : n.isBinder = m.isBinder := by
  rw [Node.isBinder, Node.isBinder, hR.kind h]

/-! ### Patterns -/

theorem patternParts (h : R n m) : List.Forall₂ R n.patternParts m.patternParts := by
  unfold Node.patternParts
  rw [← hR.kind h]
  by_cases hd : n.kind ∈ Kind.defaultPatterns
  · rw [if_pos hd, if_pos hd]
    exact rel_toList (hR.child? h (Kind.not_holder hd (by decide)) (by decide))
  rw [if_neg hd, if_neg hd]
  by_cases hp : n.kind = Kind.pairPattern
  · rw [if_pos hp, if_pos hp]
    exact rel_toList (hR.child? h (by rw [hp]; decide) (by decide))
  rw [if_neg hp, if_neg hp]
  by_cases hw : n.kind ∈ Kind.parameterWrappers
  · rw [if_pos hw, if_pos hw]
    exact rel_toList (hR.child? h (Kind.not_holder hw (by decide)) (by decide))
  rw [if_neg hw, if_neg hw]
  by_cases hc : n.kind ∈ Kind.compositePatterns
  · have hclosed : ∀ k ∈ Kind.compositePatterns, k ∉ Kind.closed := by decide
    rw [if_pos hc, if_pos hc]
    exact hR.namedChildren h (hclosed _ hc)
  rw [if_neg hc, if_neg hc]
  exact .nil

theorem patternNames (h : R n m) : n.patternNames = m.patternNames := by
  induction n using Node.induction_on generalizing m with
  | step n ih =>
      rw [Node.patternNames_eq, Node.patternNames_eq m, hR.isBinder h, hR.text h]
      congr 1
      refine rel_flatMap (hR.patternParts h) ?_
      intro a ha b hab
      exact ih a (Node.mem_of_patternParts ha) hab

theorem namesIn (h : R n m) (hk : n.kind ∉ Kind.holders) {f : String} (hf : f ≠ "body") : n.namesIn f = m.namesIn f :=
  rel_flatMap (rel_toList (hR.child? h hk hf)) fun _ _ _ hab => hR.patternNames hab

theorem parameterNames (h : R n m) (hk : n.kind ∉ Kind.holders) : n.parameterNames = m.parameterNames :=
  rel_flatMap (rel_toList (rel_or (hR.child? h hk (by decide)) (hR.child? h hk (by decide))))
    fun _ _ _ hab => hR.patternNames hab

/-! ### Imports and declarations -/

theorem specifierName? (h : R n m) (hk : n.kind ∉ Kind.holders) : n.specifierName? = m.specifierName? :=
  rel_map (rel_or (hR.child? h hk (by decide)) (hR.child? h hk (by decide))) fun _ _ hab => hR.text hab

theorem isCalled (h : R n m) (hk : n.kind ∉ Kind.holders) (name : String) : n.isCalled name = m.isCalled name :=
  rel_any? (hR.child? h hk (by decide)) fun _ _ hab => by rw [hR.text hab]

/-- The named children of one kind. -/
theorem namedChildrenOf (h : R n m) (hk : n.kind ∉ Kind.closed) (k : Kind) :
    List.Forall₂ R (n.namedChildren.filter (·.kind == k)) (m.namedChildren.filter (·.kind == k)) :=
  rel_filter (hR.namedChildren h hk) fun _ _ hab => by rw [hR.kind hab]

theorem map_text {as bs : List Node} (h : List.Forall₂ R as bs) : as.map Node.text = bs.map Node.text := by
  induction h with
  | nil => rfl
  | cons hab _ ih => rw [List.map_cons, List.map_cons, hR.text hab, ih]

theorem importPartNames (h : R n m) : n.importPartNames = m.importPartNames := by
  unfold Node.importPartNames
  rw [← hR.kind h, hR.text h]
  by_cases hi : n.kind = Kind.identifier
  · rw [if_pos hi, if_pos hi]
  rw [if_neg hi, if_neg hi]
  by_cases hn : n.kind = Kind.namespaceImport
  · rw [if_pos hn, if_pos hn]
    exact hR.map_text (hR.namedChildrenOf h (by rw [hn]; decide) _)
  rw [if_neg hn, if_neg hn]
  by_cases hb : n.kind = Kind.namedImports
  · rw [if_pos hb, if_pos hb]
    refine rel_filterMap (hR.namedChildrenOf h (by rw [hb]; decide) _) ?_
    intro a ha b hab
    have hk : a.kind = Kind.importSpecifier := by simpa using (List.mem_filter.mp ha).2
    exact hR.specifierName? hab (by rw [hk]; decide)
  rw [if_neg hb, if_neg hb]

theorem importNames (h : R n m) (hk : n.kind ∉ Kind.closed) : n.importNames = m.importNames := by
  refine rel_flatMap (hR.namedChildrenOf h hk _) ?_
  intro a ha b hab
  have hk : a.kind = Kind.importClause := by simpa using (List.mem_filter.mp ha).2
  refine rel_flatMap (hR.namedChildren hab (by rw [hk]; decide)) ?_
  exact fun _ _ _ h => hR.importPartNames h

theorem declaratorNames (h : R n m) (hk : n.kind ∉ Kind.closed) : n.declaratorNames = m.declaratorNames := by
  refine rel_flatMap (hR.namedChildrenOf h hk _) ?_
  intro a ha b hab
  have hk : a.kind = Kind.declarator := by simpa using (List.mem_filter.mp ha).2
  exact hR.namesIn hab (by rw [hk]; decide) (by decide)

theorem ownNames (h : R n m) : n.ownNames = m.ownNames := by
  unfold Node.ownNames
  rw [← hR.kind h]
  by_cases hd : n.kind = Kind.declarator
  · rw [if_pos hd, if_pos hd]
    exact hR.namesIn h (by rw [hd]; decide) (by decide)
  rw [if_neg hd, if_neg hd]
  by_cases hn : n.kind ∈ Kind.namedDeclarations
  · rw [if_pos hn, if_pos hn]
    exact hR.map_text (rel_toList (hR.child? h (Kind.not_holder hn (by decide)) (by decide)))
  rw [if_neg hn, if_neg hn]
  by_cases hc : n.kind = Kind.catchClause
  · rw [if_pos hc, if_pos hc]
    exact hR.namesIn h (by rw [hc]; decide) (by decide)
  rw [if_neg hc, if_neg hc]
  by_cases hf : n.kind = Kind.forIn
  · have hh : n.kind ∉ Kind.holders := by rw [hf]; decide
    have hkind : (n.child? "kind").isSome = (m.child? "kind").isSome := by
      have := rel_map (hR.child? h hh (f := "kind") (by decide)) (f := fun _ => ()) (g := fun _ => ()) fun _ _ _ => rfl
      simpa using congrArg Option.isSome this
    rw [hkind, hR.namesIn h hh (by decide)]
  · rw [if_neg fun h => hf h.1, if_neg fun h => hf h.1]

/-! ### Statements of a module -/

section
variable {D : Node → Node → Prop} (hD : SameNames R D)
include hD

theorem statementBinding? (h : D n m) (name : String) : n.statementBinding? name = m.statementBinding? name := by
  have hs := hD.similar h
  unfold Node.statementBinding?
  rw [← hR.kind hs]
  by_cases hi : n.kind = Kind.importStatement
  · rw [if_pos hi, if_pos hi, hR.importNames hs (by rw [hi]; decide)]
  rw [if_neg hi, if_neg hi]
  by_cases hl : n.kind = Kind.lexicalDeclaration
  · rw [if_pos hl, if_pos hl, hR.declaratorNames hs (by rw [hl]; decide), hR.isConst hs hl]
  rw [if_neg hl, if_neg hl]
  by_cases hn : n.kind ∈ Kind.namedDeclarations
  · rw [if_pos hn, if_pos hn, hR.isCalled hs (Kind.not_holder hn (by decide))]
  rw [if_neg hn, if_neg hn, hD.declaredNames h]

theorem exported? (h : D n m) : Option.Rel D n.exported? m.exported? := by
  unfold Node.exported?
  rw [← hR.kind (hD.similar h)]
  by_cases he : n.kind = Kind.exportStatement
  · rw [if_pos he, if_pos he]
    exact hD.declaration h he
  · rw [if_neg he, if_neg he]
    exact .some h

/-- Related statements decide every name in the same way. -/
theorem statements {ns ms : List Node} (h : List.Forall₂ D ns ms) (name : String) :
    (ns.filterMap Node.exported?).findSome? (·.statementBinding? name) =
      (ms.filterMap Node.exported?).findSome? (·.statementBinding? name) :=
  rel_findSome? (List.rel_filterMap (fun _ _ h => hR.exported? hD h) h) fun _ _ hab => hR.statementBinding? hD hab name

/-! ### Scopes -/

theorem functionBinding? (h : R n m) (hk : n.kind ∉ Kind.holders) (hb : Option.Rel D (n.child? "body") (m.child? "body"))
    (name : String) : n.functionBinding? name = m.functionBinding? name := by
  have hbody : (n.child? "body").any (name ∈ ·.declaredNames) = (m.child? "body").any (name ∈ ·.declaredNames) :=
    rel_any? hb fun a b hab => by rw [hD.declaredNames hab]
  unfold Node.functionBinding?
  rw [hR.parameterNames h hk, hR.isCalled h hk, hR.kind h, hbody]

/-- Related scopes decide every name in the same way, a function if its bodies correspond, a program if its statements
do. -/
theorem scopeBinding? (h : D n m) (hb : n.isFunction = true → Option.Rel D (n.child? "body") (m.child? "body"))
    (hs : n.kind = Kind.program → List.Forall₂ D n.namedChildren m.namedChildren) (name : String) :
    n.scopeBinding? name = m.scopeBinding? name := by
  have hr := hD.similar h
  unfold Node.scopeBinding?
  rw [← hR.isFunction hr, ← hR.kind hr, hD.declaredNames h]
  by_cases hf : n.isFunction = true
  · rw [if_pos hf, if_pos hf]
    exact hR.functionBinding? hD hr (Kind.not_holder (of_decide_eq_true hf) (by decide)) (hb hf) name
  rw [if_neg hf, if_neg hf]
  by_cases hblock : n.kind ∈ Kind.blocks
  · rw [if_pos hblock, if_pos hblock]
  rw [if_neg hblock, if_neg hblock]
  by_cases hp : n.kind = Kind.program
  · rw [if_pos hp, if_pos hp, Node.moduleBinding, Node.moduleBinding, hR.statements hD (hs hp)]
  · rw [if_neg hp, if_neg hp]

end

end SameParts

/-! ## Similarities -/

/-- A relation that keeps what nodes carry and, below nodes that hold no attribute values, relates their children. -/
structure Similarity (R : Node → Node → Prop) : Prop where
  head : ∀ {n m}, R n m → n.head = m.head
  children : ∀ {n m}, R n m → n.kind ∉ Kind.holders → List.Forall₂ R n.children m.children

namespace Similarity
variable {R : Node → Node → Prop} (hR : Similarity R) {n m : Node}
include hR

theorem kind (h : R n m) : n.kind = m.kind := congrArg Head.kind (hR.head h)

theorem text (h : R n m) : n.text = m.text := congrArg Head.text (hR.head h)

theorem named (h : R n m) : n.named = m.named := congrArg Head.named (hR.head h)

theorem field (h : R n m) : n.field = m.field := congrArg Head.field (hR.head h)

theorem child? (h : R n m) (hk : n.kind ∉ Kind.holders) (f : String) : Option.Rel R (n.child? f) (m.child? f) :=
  rel_find? (hR.children h hk) fun _ _ hab => by rw [hR.field hab]

theorem parts : SameParts R where
  kind := hR.kind
  text := hR.text
  child? h hk _ _ := hR.child? h hk _
  namedChildren h hk :=
    rel_filter (hR.children h fun hh => hk (List.mem_append_left _ hh)) fun _ _ hab => by rw [hR.named hab, hR.kind hab]
  isConst h hk := rel_any (hR.children h (by rw [hk]; decide)) fun _ _ hab => by rw [hR.named hab, hR.kind hab]

end Similarity

end AttrHoist
