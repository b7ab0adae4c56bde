import AttrHoist.Proofs.Lemmas.Surroundings

/-!
# Trees without comments and blanks

The bare form of a tree has lost the text around its nodes and the comments among their children, where those are not
read as something else. The collectors of names find in it what they find in the tree, and every site of the tree that
is not in a comment has a counterpart in it.
-/

namespace AttrHoist

/-! ## Lists with gaps -/

/-- `Thinned f D as bs`: the items of `bs` are the images of those of `as`, in order, where images in `D` may be
missing. -/
inductive Thinned {α β : Type} (f : α → β) (D : β → Prop) : List α → List β → Prop
  | nil : Thinned f D [] []
  | keep {a as bs} (h : Thinned f D as bs) : Thinned f D (a :: as) (f a :: bs)
  | drop {a as bs} (ha : D (f a)) (h : Thinned f D as bs) : Thinned f D (a :: as) bs

namespace Thinned
variable {α β γ δ : Type} {f : α → β} {D : β → Prop} {as as' : List α} {bs bs' : List β}

theorem filter (h : Thinned f D as bs) {p : β → Bool} {q : α → Bool} (hq : ∀ a, p (f a) = q a)
    (hD : ∀ b, D b → p b = false) : bs.filter p = (as.filter q).map f := by
  induction h with
  | nil => rfl
  | @keep a as bs _ ih =>
      rw [List.filter_cons, List.filter_cons, hq, ih]
      cases q a with
      | true => rfl
      | false => rfl
  | @drop a as bs ha _ ih => rw [List.filter_cons, ← hq, hD _ ha, if_neg Bool.false_ne_true, ih]

theorem find? (h : Thinned f D as bs) {p : β → Bool} {q : α → Bool} (hq : ∀ a, p (f a) = q a)
    (hD : ∀ b, D b → p b = false) : bs.find? p = (as.find? q).map f := by
  rw [← List.head?_filter, ← List.head?_filter, h.filter hq hD, List.head?_map]

theorem any (h : Thinned f D as bs) {p : β → Bool} {q : α → Bool} (hq : ∀ a ∈ as, p (f a) = q a)
    (hD : ∀ b, D b → p b = false) : bs.any p = as.any q := by
  induction h with
  | nil => rfl
  | @keep a as bs _ ih =>
      rw [List.any_cons, List.any_cons, hq a List.mem_cons_self, ih fun a ha => hq a (List.mem_cons_of_mem _ ha)]
  | @drop a as bs ha _ ih =>
      rw [List.any_cons, ← hq a List.mem_cons_self, hD _ ha, Bool.false_or, ih fun a ha => hq a (List.mem_cons_of_mem _ ha)]

theorem flatMap (h : Thinned f D as bs) {g : β → List γ} {k : α → List γ} (hk : ∀ a ∈ as, g (f a) = k a)
    (hD : ∀ b, D b → g b = []) : bs.flatMap g = as.flatMap k := by
  induction h with
  | nil => rfl
  | @keep a as bs _ ih =>
      rw [List.flatMap_cons, List.flatMap_cons, hk a List.mem_cons_self, ih fun a ha => hk a (List.mem_cons_of_mem _ ha)]
  | @drop a as bs ha _ ih =>
      rw [List.flatMap_cons, ← hk a List.mem_cons_self, hD _ ha, List.nil_append,
        ih fun a ha => hk a (List.mem_cons_of_mem _ ha)]

theorem of_mem (h : Thinned f D as bs) {b : β} (hb : b ∈ bs) : ∃ a ∈ as, f a = b := by
  induction h with
  | nil => cases hb
  | keep _ ih =>
      rcases List.mem_cons.mp hb with rfl | hb
      · exact ⟨_, List.mem_cons_self, rfl⟩
      · obtain ⟨a, ha, rfl⟩ := ih hb
        exact ⟨a, List.mem_cons_of_mem _ ha, rfl⟩
  | drop _ _ ih =>
      obtain ⟨a, ha, rfl⟩ := ih hb
      exact ⟨a, List.mem_cons_of_mem _ ha, rfl⟩

theorem mem_or (h : Thinned f D as bs) {a : α} (ha : a ∈ as) : D (f a) ∨ f a ∈ bs := by
  induction h with
  | nil => cases ha
  | keep _ ih =>
      rcases List.mem_cons.mp ha with rfl | ha
      · exact .inr List.mem_cons_self
      · exact (ih ha).imp_right (List.mem_cons_of_mem _)
  | drop hD _ ih =>
      rcases List.mem_cons.mp ha with rfl | ha
      · exact .inl hD
      · exact ih ha

theorem append (h : Thinned f D as bs) (h' : Thinned f D as' bs') : Thinned f D (as ++ as') (bs ++ bs') := by
  induction h with
  | nil => exact h'
  | keep _ ih => exact .keep ih
  | drop ha _ ih => exact .drop ha ih

theorem of_all (h : ∀ a ∈ as, D (f a)) : Thinned f D as [] := by
  induction as with
  | nil => exact .nil
  | cons a as ih => exact .drop (h a List.mem_cons_self) (ih fun a ha => h a (List.mem_cons_of_mem _ ha))

/-- What lies under the items of a list with gaps has gaps, if what lies under a missing item is all missing. -/
theorem under {f' : γ → δ} {D' : δ → Prop} {g : α → List γ} {g' : β → List δ} (h : Thinned f D as bs)
    (hg : ∀ a ∈ as, Thinned f' D' (g a) (g' (f a))) (hD : ∀ a ∈ as, D (f a) → ∀ c ∈ g a, D' (f' c)) :
    Thinned f' D' (as.flatMap g) (bs.flatMap g') := by
  induction h with
  | nil => exact .nil
  | @keep a as bs _ ih =>
      refine (hg a List.mem_cons_self).append (ih ?_ ?_)
      · exact fun a ha => hg a (List.mem_cons_of_mem _ ha)
      · exact fun a ha => hD a (List.mem_cons_of_mem _ ha)
  | @drop a as bs ha _ ih =>
      refine (of_all (hD a List.mem_cons_self ha)).append (ih ?_ ?_)
      · exact fun a ha => hg a (List.mem_cons_of_mem _ ha)
      · exact fun a ha => hD a (List.mem_cons_of_mem _ ha)

end Thinned

/-! ## Bare nodes -/

/-- Whether a child at position `i` is read whatever its kind is: every part of a namespaced name, and the first child
of an attribute as the name of the attribute. -/
def Kind.pinned (k : Kind) (i : Nat) : Bool :=
  k == namespaceName || k == markupAttribute && i == 0

namespace Node

/-- A comment without a role and without children. -/
def isRemark (n : Node) : Bool :=
  n.kind == Kind.comment && n.field.isNone && n.children.isEmpty

mutual
/-- The tree without the text around its nodes and without its remarks, those apart that are read as names. -/
def bare : Node → Node
  | mk h cs => mk { h with leading := "", trailing := "" } (bareAll h.kind 0 cs)

/-- What is left of children of a node of kind `k` from position `i` on. -/
def bareAll (k : Kind) : Nat → List Node → List Node
  | _, [] => []
  | i, c :: cs =>
    if k.pinned i || !c.bare.isRemark then c.bare :: bareAll k (i + 1) cs else bareAll k (i + 1) cs
end

@[simp] theorem kind_bare (n : Node) : n.bare.kind = n.kind := by cases n; rfl

@[simp] theorem text_bare (n : Node) : n.bare.text = n.text := by cases n; rfl

@[simp] theorem named_bare (n : Node) : n.bare.named = n.named := by cases n; rfl

@[simp] theorem field_bare (n : Node) : n.bare.field = n.field := by cases n; rfl

theorem children_bare (n : Node) : n.bare.children = bareAll n.kind 0 n.children := by cases n; rfl

@[simp] theorem isFunction_bare (n : Node) : n.bare.isFunction = n.isFunction := by
  rw [isFunction, isFunction, kind_bare]

theorem kind_of_isRemark {n : Node} (h : n.isRemark = true) : n.kind = Kind.comment := by
  simp only [isRemark, Bool.and_eq_true, beq_iff_eq] at h
  exact h.1.1

theorem field_of_isRemark {n : Node} (h : n.isRemark = true) : n.field = none := by
  simp only [isRemark, Bool.and_eq_true, Option.isNone_iff_eq_none] at h
  exact h.1.2

theorem children_of_isRemark {n : Node} (h : n.isRemark = true) : n.children = [] := by
  simp only [isRemark, Bool.and_eq_true, List.isEmpty_iff] at h
  exact h.2

theorem isRemark_of_gone {k : Kind} {i : Nat} {c : Node} (h : ¬ (k.pinned i || !c.bare.isRemark) = true) :
    c.bare.isRemark = true := by
  rw [Bool.not_eq_true, Bool.or_eq_false_iff, Bool.not_eq_false'] at h
  exact h.2

theorem thinned_bareAll (k : Kind) (i : Nat) (cs : List Node) :
    Thinned bare (fun m => m.isRemark = true) cs (bareAll k i cs) := by
  induction cs generalizing i with
  | nil => exact .nil
  | cons c cs ih =>
      rw [bareAll]
      by_cases hc : (k.pinned i || !c.bare.isRemark) = true
      · rw [if_pos hc]
        exact .keep (ih _)
      · rw [if_neg hc]
        exact .drop (isRemark_of_gone hc) (ih _)

theorem thinned_children (n : Node) :
    Thinned bare (fun m => m.isRemark = true) n.children n.bare.children := by
  rw [children_bare]
  exact thinned_bareAll n.kind 0 n.children

theorem child?_bare (n : Node) (f : String) : n.bare.child? f = (n.child? f).map bare := by
  refine n.thinned_children.find? (fun c => by rw [field_bare]) fun m hm => ?_
  rw [field_of_isRemark hm]
  rfl

theorem namedChildren_bare (n : Node) : n.bare.namedChildren = n.namedChildren.map bare := by
  refine n.thinned_children.filter (fun c => by rw [named_bare, kind_bare]) fun m hm => ?_
  rw [kind_of_isRemark hm]
  exact Bool.and_false _

/-! ### Names -/

theorem rel_child?_bare (n : Node) (f : String) : Option.Rel (fun c d => d = c.bare) (n.child? f) (n.bare.child? f) := by
  rw [child?_bare]
  cases n.child? f with
  | none => exact .none
  | some c => exact .some rfl

theorem rel_namedChildren_bare (n : Node) :
    List.Forall₂ (fun c d => d = c.bare) n.namedChildren n.bare.namedChildren := by
  rw [namedChildren_bare, List.forall₂_map_right_iff, List.forall₂_same]
  exact fun _ _ => rfl

theorem parts_bare : SameParts fun n m => m = n.bare where
  kind h := by rw [h, kind_bare]
  text h := by rw [h, text_bare]
  child? h _ f _ := h ▸ rel_child?_bare _ f
  namedChildren h _ := h ▸ rel_namedChildren_bare _
  isConst h _ := by
    rw [h]
    refine ((thinned_children _).any (fun c _ => by rw [named_bare, kind_bare]) fun m hm => ?_).symm
    rw [kind_of_isRemark hm]
    exact Bool.and_false _

theorem patternNames_bare (n : Node) : n.bare.patternNames = n.patternNames :=
  (parts_bare.patternNames rfl).symm

theorem parameterNames_bare (n : Node) : n.bare.parameterNames = n.parameterNames := by
  have h : n.bare.parameters? = n.parameters?.map bare := by
    rw [parameters?, parameters?, child?_bare, child?_bare, Option.map_or]
  rw [parameterNames, parameterNames, h]
  cases n.parameters? with
  | none => rfl
  | some p => simp [patternNames_bare]

theorem isCalled_bare (n : Node) (name : String) : n.bare.isCalled name = n.isCalled name := by
  rw [isCalled, isCalled, child?_bare, Option.any_map]
  simp only [text_bare]

theorem declaredNames_of_isRemark {n : Node} (h : n.isRemark = true) : n.declaredNames = [] := by
  have hown : n.ownNames = [] := by
    rw [ownNames, kind_of_isRemark h]
    rfl
  rw [declaredNames_eq, hown, children_of_isRemark h, List.flatMap_nil, ite_self, List.append_nil]

theorem declaredNames_bare (n : Node) : n.bare.declaredNames = n.declaredNames := by
  induction n using induction_on with
  | step n ih =>
      rw [declaredNames_eq, declaredNames_eq n, isFunction_bare, ← parts_bare.ownNames rfl]
      congr 2
      apply n.thinned_children.flatMap
      · exact ih
      · exact fun _ => declaredNames_of_isRemark

theorem sameNames_bare : SameNames (fun n m => m = n.bare) (fun n m => m = n.bare) where
  similar h := h
  declaredNames h := by rw [h, declaredNames_bare]
  declaration h hk := parts_bare.child? h (by rw [hk]; decide) (by decide)

theorem scopeBinding?_bare (n : Node) (name : String) : n.bare.scopeBinding? name = n.scopeBinding? name := by
  symm
  apply parts_bare.scopeBinding? sameNames_bare rfl
  · exact fun _ => rel_child?_bare n "body"
  · exact fun _ => rel_namedChildren_bare n

theorem binds_bare (n : Node) (name : String) : n.bare.binds name = n.binds name := by
  have h : n.bare.bodyNames = n.bodyNames := by
    rw [bodyNames, bodyNames, child?_bare, child?_bare]
    cases n.child? "body" <;> cases n.child? "name" <;> simp [declaredNames_bare]
  rw [binds, binds, h, parameterNames_bare]

theorem innerBinds_bare (n : Node) (name : String) : n.bare.innerBinds name = n.innerBinds name := by
  rw [innerBinds, innerBinds, isFunction_bare, kind_bare, parameterNames_bare, isCalled_bare, declaredNames_bare]

/-- A function uses the receiver around it in a child that is the receiver, or that shares it and uses it. -/
theorem readsReceiver_eq (f : Node) : f.readsReceiver =
    f.children.any fun c => c.isReceiver || (!c.isFunction || c.kind == Kind.arrow) && c.readsReceiver := by
  rw [readsReceiver, visit_eq_flatMap, List.any_flatMap]
  congr 1
  funext c
  rw [visit_singleton, List.any_cons]
  cases !c.isFunction || c.kind == Kind.arrow with
  | true => rfl
  | false => rfl

theorem readsReceiver_bare (f : Node) : f.bare.readsReceiver = f.readsReceiver := by
  induction f using induction_on with
  | step f ih =>
      rw [readsReceiver_eq, readsReceiver_eq f]
      apply f.thinned_children.any
      · intro c hc
        rw [ih c hc, isFunction_bare, isReceiver, isReceiver, named_bare, kind_bare]
      · intro m hm
        have hr : Kind.comment ∉ Kind.receivers := by decide
        rw [readsReceiver_eq m, children_of_isRemark hm, isReceiver, kind_of_isRemark hm]
        simp [hr]

/-! ### Attributes -/

theorem bareAll_namespaceName (i : Nat) (cs : List Node) : bareAll Kind.namespaceName i cs = cs.map bare := by
  induction cs generalizing i with
  | nil => rfl
  | cons c cs ih =>
      rw [bareAll, ih]
      rfl

theorem attributeName?_bare (n : Node) (hk : n.kind = Kind.markupAttribute) : n.bare.attributeName? = n.attributeName? := by
  rw [attributeName?, attributeName?, children_bare, hk]
  cases n.children with
  | nil => rfl
  | cons c cs =>
      have hfirst : (bareAll Kind.markupAttribute 0 (c :: cs)).head? = some c.bare := by rw [bareAll]; rfl
      rw [hfirst, List.head?_cons, Option.map_some, Option.map_some, kind_bare, text_bare]
      by_cases hn : c.kind = Kind.namespaceName
      · rw [if_pos hn, if_pos hn, children_bare, hn, bareAll_namespaceName, List.map_map]
        simp only [Function.comp_def, text_bare]
      · rw [if_neg hn, if_neg hn]

/-! ## Bare sites -/

theorem bareAll_append (k : Kind) (i : Nat) (cs ds : List Node) :
    bareAll k i (cs ++ ds) = bareAll k i cs ++ bareAll k (i + cs.length) ds := by
  induction cs generalizing i with
  | nil => rfl
  | cons c cs ih =>
      have hi : i + 1 + cs.length = i + (cs.length + 1) := by omega
      rw [List.cons_append, bareAll, bareAll, ih, List.length_cons, hi]
      split
      · rfl
      · rfl

/-- The position that the child at position `i` has in the bare tree. -/
def rank (n : Node) (i : Nat) : Nat := (bareAll n.kind 0 (n.children.take i)).length

end Node

namespace Site

/-- The counterpart of a site in the bare tree. -/
def bare (s : Site) : Site := ⟨s.node.bare, s.trail.map fun c => ⟨c.parent.bare, c.parent.rank c.index⟩⟩

@[simp] theorem node_bare (s : Site) : s.bare.node = s.node.bare := rfl

@[simp] theorem kind_bare (s : Site) : s.bare.kind = s.kind := s.node.kind_bare

@[simp] theorem text_bare (s : Site) : s.bare.text = s.text := s.node.text_bare

theorem ancestors_bare (s : Site) : s.bare.ancestors = s.ancestors.map bare := by
  obtain ⟨n, trail⟩ := s
  rw [ancestors, ancestors]
  induction trail with
  | nil => rfl
  | cons c cs ih => exact congrArg (_ :: ·) ih

theorem parent?_bare (s : Site) : s.bare.parent? = s.parent?.map bare := by
  rw [parent?, parent?, ancestors_bare, List.head?_map]

/-- Children from some position on: their counterparts stand in the bare tree behind those of the children before. -/
theorem thinned_descend (s : Site) (cs ds : List Node) (h : s.node.children = cs ++ ds) :
    Thinned bare (fun c => c.node.isRemark = true) ((ds.zipIdx cs.length).map fun p => s.descend p.1 p.2)
      (((Node.bareAll s.kind cs.length ds).zipIdx (Node.bareAll s.kind 0 cs).length).map
        fun p => s.bare.descend p.1 p.2) := by
  induction ds generalizing cs with
  | nil => exact .nil
  | cons d ds ih =>
      have hrank : s.node.rank cs.length = (Node.bareAll s.kind 0 cs).length := by
        rw [Node.rank, h, List.take_left]
        rfl
      have ih := ih (cs ++ [d]) (by rw [h, List.append_assoc]; rfl)
      rw [List.length_append, Node.bareAll_append, List.length_append, Nat.zero_add] at ih
      rw [List.zipIdx_cons, List.map_cons, Node.bareAll]
      by_cases hd : (s.kind.pinned cs.length || !d.bare.isRemark) = true
      · rw [if_pos hd, List.zipIdx_cons, List.map_cons, ← hrank]
        have hone : Node.bareAll s.kind cs.length [d] = [d.bare] := by rw [Node.bareAll, if_pos hd]; rfl
        rw [hone, ← hrank] at ih
        exact .keep ih
      · have hnone : Node.bareAll s.kind cs.length [d] = [] := by rw [Node.bareAll, if_neg hd]; rfl
        rw [if_neg hd]
        rw [hnone] at ih
        exact .drop (Node.isRemark_of_gone hd) ih

theorem thinned_children (s : Site) : Thinned bare (fun c => c.node.isRemark = true) s.children s.bare.children := by
  have h := s.thinned_descend [] s.node.children rfl
  rw [children, children, node_bare, Node.children_bare]
  exact h

theorem child?_bare (s : Site) (f : String) : s.bare.child? f = (s.child? f).map bare := by
  refine s.thinned_children.find? (fun c => by rw [node_bare, Node.field_bare]) fun c hc => ?_
  rw [Node.field_of_isRemark hc]
  rfl

theorem namedChildren_bare (s : Site) : s.bare.namedChildren = s.namedChildren.map bare := by
  refine s.thinned_children.filter (fun c => by rw [node_bare, Node.named_bare, kind_bare]) fun c hc => ?_
  rw [kind, Node.kind_of_isRemark hc]
  exact Bool.and_false _

theorem kind_of_bare_isRemark {s w : Site} (h : s.node.bare.isRemark = true) (hw : w ∈ s.walk) : w.kind = Kind.comment := by
  induction s using induction_on with
  | step s ih =>
      rcases mem_walk.mp hw with rfl | ⟨c, hc, hw⟩
      · rw [← kind_bare]
        exact Node.kind_of_isRemark h
      · refine ih c hc ?_ hw
        rcases s.thinned_children.mem_or hc with hr | hm
        · exact hr
        · have hn := node_mem_children hm
          rw [node_bare, Node.children_of_isRemark h] at hn
          cases hn

/-- The sites of the bare tree are those of the tree, some in comments apart. -/
theorem thinned_walk (s : Site) : Thinned bare (fun w => w.kind = Kind.comment) s.walk s.bare.walk := by
  induction s using induction_on with
  | step s ih =>
      rw [walk_eq, walk_eq s.bare]
      refine .keep (s.thinned_children.under ih ?_)
      intro c _ hr w hw
      rw [kind_bare]
      exact kind_of_bare_isRemark hr hw

end Site

end AttrHoist
