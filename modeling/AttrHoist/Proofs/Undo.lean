import AttrHoist.Proofs.Lemmas.Numbering
import AttrHoist.Proofs.Lemmas.Output
import Mathlib.Data.List.TakeWhile

/-!
# Undoing a pass

A pass loses nothing: the declarations that it appends, put back where their names are used, give the tree that it
started from. The tree must not hold texts that look like generated names.
-/

namespace AttrHoist

namespace Node

/-! ## The inverse -/

/-- The first declarator of a declaration. -/
def declarator? (n : Node) : Option Node := n.children.find? (·.kind == Kind.declarator)

/-- Whether a statement declares a generated name. -/
def isGenerated (n : Node) : Bool :=
  n.kind == Kind.lexicalDeclaration && (n.declarator?.bind (·.child? "name")).any (hasStem ·.text)

/-- The name that a declaration binds and the value that it gives to it. -/
def binding? (n : Node) : Option (String × Node) :=
  n.declarator?.bind fun d => (d.child? "name").bind fun name => (d.child? "value").map fun v => (name.text, v)

mutual
/-- Puts values back in place of the identifiers that stand for them, with the role and the text in front that the
identifiers have. -/
def restore (values : List (String × Node)) : Node → Node
  | mk h cs =>
    match if h.kind = Kind.identifier then values.lookup h.text else none with
    | some v => v.mapHead fun g => { g with leading := h.leading, field := h.field }
    | none => mk h (restoreAll values cs)

/-- The same in consecutive trees. -/
def restoreAll (values : List (String × Node)) : List Node → List Node
  | [] => []
  | c :: cs => restore values c :: restoreAll values cs
end

/-- Removes the longest run of declarations of generated names at the end of a module and puts their values back. -/
def unhoist (t : Node) : Node :=
  restore ((t.children.reverse.takeWhile isGenerated).reverse.filterMap binding?)
    (mk t.head (t.children.reverse.dropWhile isGenerated).reverse)

end Node

/-! ## Declarations -/

theorem generatedName_injective : Function.Injective generatedName := numbered_injective generatedStem

theorem declarator?_declarationOf (i : Nat) (v : Node) :
    (declarationOf i v).declarator? = some (declaratorOf i v) := by
  rw [declarationOf_eq]
  rfl

theorem isGenerated_declarationOf (i : Nat) (v : Node) : (declarationOf i v).isGenerated = true := by
  rw [Node.isGenerated, declarator?_declarationOf]
  exact hasStem_generatedName i

theorem binding?_declarationOf (i : Nat) (v : Node) :
    (declarationOf i v).binding? = some (generatedName i, v.asValue) := by
  rw [Node.binding?, declarator?_declarationOf]
  cases v
  rfl

/-- The names and values in the declarations of a pass. -/
def bindingsOf (k : Nat) (vs : List Node) : List (String × Node) :=
  (vs.zipIdx k).map fun p => (generatedName p.2, p.1.asValue)

theorem filterMap_declarationsOf (vs : List Node) : (declarationsOf vs).filterMap Node.binding? = bindingsOf 0 vs := by
  rw [declarationsOf, bindingsOf, List.filterMap_map, ← List.filterMap_eq_map]
  congr 1
  funext p
  exact binding?_declarationOf p.2 p.1

theorem lookup_bindingsOf {vs : List Node} {i : Nat} {v : Node} (k : Nat) (h : vs[i]? = some v) :
    (bindingsOf k vs).lookup (generatedName (k + i)) = some v.asValue := by
  induction vs generalizing k i with
  | nil => simp at h
  | cons u vs ih =>
      rw [bindingsOf, List.zipIdx_cons, List.map_cons, List.lookup_cons]
      cases i with
      | zero =>
          rw [List.getElem?_cons_zero, Option.some.injEq] at h
          subst h
          simp
      | succ i =>
          have hne : generatedName (k + (i + 1)) ≠ generatedName k := by
            intro he
            have := generatedName_injective he
            omega
          rw [List.getElem?_cons_succ] at h
          have hrec := ih (k + 1) h
          rw [show k + 1 + i = k + (i + 1) by omega] at hrec
          simp only [beq_eq_false_iff_ne.mpr hne]
          exact hrec

theorem lookup_bindingsOf_fresh {k : Nat} {vs : List Node} {name : String} (h : hasStem name = false) :
    (bindingsOf k vs).lookup name = none := by
  rw [List.lookup_eq_none_iff]
  intro p hp
  obtain ⟨q, _, rfl⟩ := List.mem_map.mp hp
  rw [bne_iff_ne]
  intro he
  rw [he, hasStem_generatedName] at h
  cases h

/-! ## Putting values back -/

theorem Node.mapHead_asValue (v : Node) :
    (v.asValue.mapHead fun g => { g with leading := v.leading, field := v.field }) = v := by
  cases v
  rfl

namespace Pass

-- The values must list what was taken at `s` from the `k`-th name on and nothing else that occurs in the tree.
mutual
theorem Rewritten.restore {p s k n vs values} (h : Rewritten p s k n vs) (hf : s.node.Fresh)
    (hv : ∀ i v, vs[i]? = some v → values.lookup (generatedName (k + i)) = some v.node.asValue)
    (ho : ∀ name, hasStem name = false → values.lookup name = none) : n.restore values = s.node := by
  match h with
  | .taken _ =>
      have hl := hv 0 s rfl
      rw [Nat.add_zero] at hl
      rw [Node.identifier, Node.restore, if_pos rfl, hl]
      exact Node.mapHead_asValue s.node
  | .kept _ hc =>
      have hn : (if s.node.head.kind = Kind.identifier then values.lookup s.node.head.text else none) = none := by
        split
        · exact ho _ hf.text
        · rfl
      rw [Node.restore, hn, RewrittenAll.restore hc (fun c hc => hf.child (Site.node_mem_children hc)) hv ho,
        Site.map_node_children]
      exact Node.eta s.node

theorem RewrittenAll.restore {p ss k ns vs values} (h : RewrittenAll p ss k ns vs)
    (hf : ∀ s ∈ ss, s.node.Fresh)
    (hv : ∀ i v, vs[i]? = some v → values.lookup (generatedName (k + i)) = some v.node.asValue)
    (ho : ∀ name, hasStem name = false → values.lookup name = none) :
    Node.restoreAll values ns = ss.map Site.node := by
  match h with
  | .nil => rfl
  | @RewrittenAll.cons _ s _ _ _ _ vs _ h hs =>
      have hhead := Rewritten.restore h (hf s (by simp)) (fun i v hi => hv i v (by
        rw [List.getElem?_append_left (List.getElem?_eq_some_iff.mp hi).1]; exact hi)) ho
      have htail := RewrittenAll.restore hs (fun c hc => hf c (by simp [hc])) (fun i v hi => by
        rw [Nat.add_assoc]
        exact hv (vs.length + i) v (by rw [List.getElem?_append_right (by omega)]; simpa using hi)) ho
      rw [Node.restoreAll, hhead, htail, List.map_cons]
end

end Pass

/-! ## The run of generated declarations -/

theorem Pass.Kept.declarator? {accepts r s n} (h : Pass.Kept accepts r s n) (hk : s.kind ∉ Kind.holders) :
    Option.Rel (Pass.KeptNode accepts r) s.node.declarator? n.declarator? := by
  have hn : Pass.KeptNode accepts r s.node n := ⟨s, rfl, h⟩
  exact rel_find? (hn.children hk) fun _ _ hab => by rw [Node.kind, Node.kind, hab.head]

/-- A pass turns no statement into a declaration of a generated name. -/
theorem Pass.Kept.isGenerated {accepts r s n} (h : Pass.Kept accepts r s n) :
    n.isGenerated = s.node.isGenerated := by
  have hsim := Pass.similarity_kept accepts r
  rw [Node.isGenerated, Node.isGenerated, h.kind, Site.kind]
  by_cases hl : s.node.kind = Kind.lexicalDeclaration
  · congr 1
    have hd := h.declarator? (by rw [Site.kind, hl]; decide)
    cases he : s.node.declarator? with
    | none => rw [he] at hd; rw [rel_none_left hd]
    | some d =>
        rw [he] at hd
        obtain ⟨d', he', hdd⟩ := rel_some_left hd
        have hk : d.kind = Kind.declarator := by simpa using List.find?_some he
        rw [he', Option.bind_some, Option.bind_some]
        refine (rel_any? (hsim.child? hdd (by rw [hk]; decide) _) ?_).symm
        exact fun _ _ hab => by rw [hsim.text hab]
  · rw [beq_eq_false_iff_ne.mpr hl, Bool.false_and, Bool.false_and]

theorem Node.Fresh.isGenerated {n : Node} (h : n.Fresh) : n.isGenerated = false := by
  rw [Node.isGenerated]
  cases hd : n.declarator? with
  | none => rw [Option.bind_none, Option.any_none, Bool.and_false]
  | some d =>
      rw [Option.bind_some]
      cases hm : d.child? "name" with
      | none => rw [Option.any_none, Bool.and_false]
      | some m =>
          have hf := (h.child (List.mem_of_find?_eq_some hd)).child (Node.mem_of_child? hm)
          rw [Option.any_some, hf.text, Bool.and_false]

theorem takeWhile_run {α : Type} {p : α → Bool} {as bs : List α} (ha : ∀ a ∈ as, p a = false)
    (hb : ∀ b ∈ bs, p b = true) : ((as ++ bs).reverse.takeWhile p).reverse = bs := by
  have hnil : as.reverse.takeWhile p = [] := by
    rw [List.takeWhile_eq_nil_iff]
    intro h
    rw [ha _ (List.mem_reverse.mp (List.get_mem _ _))]
    exact Bool.false_ne_true
  rw [List.reverse_append, List.takeWhile_append_of_pos fun b h => hb b (List.mem_reverse.mp h), hnil,
    List.append_nil, List.reverse_reverse]

theorem dropWhile_run {α : Type} {p : α → Bool} {as bs : List α} (ha : ∀ a ∈ as, p a = false)
    (hb : ∀ b ∈ bs, p b = true) : ((as ++ bs).reverse.dropWhile p).reverse = as := by
  have hall : as.reverse.dropWhile p = as.reverse := by
    rw [List.dropWhile_eq_self_iff]
    intro h
    rw [ha _ (List.mem_reverse.mp (List.getElem_mem h))]
    exact Bool.false_ne_true
  rw [List.reverse_append, List.dropWhile_append_of_pos fun b h => hb b (List.mem_reverse.mp h), hall,
    List.reverse_reverse]

/-! ## A pass can be undone -/

theorem Pass.isGenerated_statements {accepts r} {t : Node} {ns : List Node} (hf : t.Fresh)
    (h : List.Forall₂ (Pass.Becomes accepts r) (Site.root t).children ns) : ∀ n ∈ ns, n.isGenerated = false := by
  have hkept := Pass.kept_of_becomes h fun _ hc => Pass.not_taken_statement hc
  intro n hn
  obtain ⟨i, hi⟩ := List.mem_iff_getElem?.mp hn
  obtain ⟨c, hc, hcn⟩ := rel_getElem? hkept hi
  rw [hcn.isGenerated]
  exact (hf.child (Site.node_mem_children (List.mem_of_getElem? hc))).isGenerated

theorem Node.unhoist_hoist_of_fresh {t : Node} (hf : t.Fresh) (accepts : String → Bool) (r : Resolver) :
    (t.hoist accepts r).value.unhoist = t := by
  obtain ⟨ns, hr, ho⟩ := t.hoist_eq accepts r
  have hns := Pass.isGenerated_statements hf hr.becomes
  have hds : ∀ d ∈ declarationsOf ((t.accepted accepts r).map Site.node), d.isGenerated = true := by
    intro d hd
    obtain ⟨p, _, rfl⟩ := List.mem_map.mp hd
    exact isGenerated_declarationOf p.2 p.1
  rw [ho, unhoist, children_mk, head_mk, takeWhile_run hns hds, dropWhile_run hns hds, filterMap_declarationsOf]
  refine (Pass.Rewritten.kept (Pass.not_taken_root accepts r t) hr).restore hf ?_ ?_
  · intro i v hi
    rw [lookup_bindingsOf 0 (by rw [List.getElem?_map, hi, Option.map_some])]
  · exact fun name hname => lookup_bindingsOf_fresh hname

/-- A pass over a tree without generated names is undone exactly: cutting off the declarations of generated names at
its end and putting their values back gives every node, text, role, flag and order of the tree again. So different
trees never come out the same, whatever the filters and resolvers of the passes. -/
theorem Node.unhoist_hoist (t : Node) (hf : t.Fresh) (accepts : String → Bool) (r : Resolver) :
    (t.hoist accepts r).value.unhoist = t ∧
      ∀ (u : Node) (accepts' : String → Bool) (r' : Resolver), u.Fresh →
        (t.hoist accepts r).value = (u.hoist accepts' r').value → t = u := by
  refine ⟨unhoist_hoist_of_fresh hf accepts r, ?_⟩
  intro u accepts' r' hu h
  rw [← unhoist_hoist_of_fresh hf accepts r, h, unhoist_hoist_of_fresh hu accepts' r']

/-- A pass changes the sample module and is undone; the module with the inner markup alone comes out differently. -/
theorem Sample.nested_unhoist :
    nested.Fresh ∧ plain.Fresh ∧ (nested.hoist (fun _ => true) .lexical).value ≠ nested ∧
      (nested.hoist (fun _ => true) .lexical).value.unhoist = nested ∧
      (nested.hoist (fun _ => true) .lexical).value ≠ (plain.hoist (fun _ => true) .lexical).value := by
  have hf : nested.Fresh := by decide +kernel
  have hp : plain.Fresh := by decide +kernel
  obtain ⟨hundo, hinj⟩ := nested.unhoist_hoist hf (fun _ => true) .lexical
  refine ⟨hf, hp, by decide +kernel, hundo, ?_⟩
  intro h
  exact absurd (hinj _ _ _ hp h) (by decide +kernel)

end AttrHoist
