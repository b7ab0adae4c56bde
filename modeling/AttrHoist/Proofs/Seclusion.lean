import AttrHoist.Proofs.Lemmas.Output
import AttrHoist.Proofs.Lemmas.Surroundings

/-!
# The inside of a function stays with it

The collectors of names pass by functions: one shows its name and its parameters, never its body. So whatever
stands in the body of a function, the decisions about sites outside the function are the same.
-/

namespace AttrHoist

/-- Lists of the same length are related if their elements are, position by position. -/
theorem forall₂_of_getElem? {α : Type} {R : α → α → Prop} {as bs : List α} (hl : as.length = bs.length)
    (h : ∀ {i : Nat} {a b}, as[i]? = some a → bs[i]? = some b → R a b) : List.Forall₂ R as bs := by
  rw [List.forall₂_iff_get]
  exact ⟨hl, fun i ha hb => h (List.getElem?_eq_getElem ha) (List.getElem?_eq_getElem hb)⟩

namespace Node

/-! ## Other bodies in functions -/

/-- Trees that differ at most in the bodies of functions. -/
inductive Rebodied : Node → Node → Prop
  | mk {n m : Node} (head : n.head = m.head) (length : n.children.length = m.children.length)
      (child : ∀ {i : Nat} {c d}, n.children[i]? = some c → m.children[i]? = some d →
        ¬ (n.isFunction = true ∧ c.field = some "body" ∧ d.field = some "body") → Rebodied c d) : Rebodied n m

namespace Rebodied
variable {n m : Node}

theorem head (h : Rebodied n m) : n.head = m.head := by
  cases h with
  | mk head _ _ => exact head

theorem kind (h : Rebodied n m) : n.kind = m.kind := congrArg Head.kind h.head

theorem text (h : Rebodied n m) : n.text = m.text := congrArg Head.text h.head

theorem named (h : Rebodied n m) : n.named = m.named := congrArg Head.named h.head

theorem field (h : Rebodied n m) : n.field = m.field := congrArg Head.field h.head

theorem refl (n : Node) : Rebodied n n := by
  induction n using induction_on with
  | step n ih =>
      refine .mk rfl rfl fun {i c d} hc hd _ => ?_
      obtain rfl : c = d := Option.some.inj (hc.symm.trans hd)
      exact ih c (List.mem_of_getElem? hc)

theorem of_children (hh : n.head = m.head) (hc : List.Forall₂ Rebodied n.children m.children) : Rebodied n m :=
  .mk hh hc.length_eq fun hi hj _ => by
    obtain ⟨d, hd, hcd⟩ := rel_getElem?_left hc hi
    cases hj.symm.trans hd
    exact hcd

/-- Children are related, bodies apart. -/
theorem children_or (h : Rebodied n m) :
    List.Forall₂ (fun c d => Rebodied c d ∨ n.isFunction = true ∧ c.field = some "body" ∧ d.field = some "body")
      n.children m.children := by
  cases h with
  | mk _ length child =>
      refine forall₂_of_getElem? length fun {_ c d} hc hd => ?_
      by_cases hbody : n.isFunction = true ∧ c.field = some "body" ∧ d.field = some "body"
      · exact .inr hbody
      · exact .inl (child hc hd hbody)

theorem children (h : Rebodied n m) (hf : n.isFunction = false) : List.Forall₂ Rebodied n.children m.children :=
  h.children_or.imp fun _ _ hcd => hcd.resolve_right fun hbody => by
    rw [hf] at hbody
    exact Bool.false_ne_true hbody.1

theorem child? (h : Rebodied n m) {f : String} (hf : f ≠ "body") : Option.Rel Rebodied (n.child? f) (m.child? f) := by
  have hne : (some "body" == some f) = false := beq_eq_false_iff_ne.mpr fun h => hf (Option.some.inj h).symm
  have hc := h.children_or
  unfold Node.child?
  revert hc
  generalize n.children = cs, m.children = ds
  intro hc
  induction hc with
  | nil => exact .none
  | @cons c d _ _ hcd _ ih =>
      rw [List.find?_cons, List.find?_cons]
      rcases hcd with hcd | ⟨_, hc, hd⟩
      · rw [← hcd.field]
        cases c.field == some f with
        | true => exact .some hcd
        | false => exact ih
      · rw [hc, hd, hne]
        exact ih

/-- Only the kinds that are functions keep their children from the collectors of names. -/
theorem parts : SameParts Rebodied where
  kind h := h.kind
  text h := h.text
  child? h _ _ hf := h.child? hf
  namedChildren h hk := by
    have hf : isFunction _ = false := decide_eq_false fun hf => hk (List.mem_append_right _ hf)
    exact rel_filter (h.children hf) fun _ _ hcd => by rw [hcd.kind, hcd.named]
  isConst h hk := by
    have hf : isFunction _ = false := decide_eq_false fun hf => by rw [hk] at hf; exact absurd hf (by decide)
    exact rel_any (h.children hf) fun _ _ hcd => by rw [hcd.kind, hcd.named]

/-- No function is entered in search of declarations. -/
theorem declaredNames (h : Rebodied n m) : n.declaredNames = m.declaredNames := by
  induction h with
  | @mk n m head length child ih =>
      have h : Rebodied n m := .mk head length child
      rw [declaredNames_eq, declaredNames_eq m, parts.ownNames h, ← parts.isFunction h]
      congr 1
      cases hf : n.isFunction with
      | true => rfl
      | false =>
          have hc : List.Forall₂ (fun c d : Node => c.declaredNames = d.declaredNames) n.children m.children :=
            forall₂_of_getElem? length fun hc hd => ih hc hd fun hbody => by
              rw [hf] at hbody
              exact Bool.false_ne_true hbody.1
          exact rel_flatMap hc fun _ _ _ h => h

theorem sameNames : SameNames Rebodied Rebodied where
  similar h := h
  declaredNames h := h.declaredNames
  declaration h _ := h.child? (by decide)

theorem attributeName? (h : Rebodied n m) (hk : n.kind = Kind.markupAttribute) : n.attributeName? = m.attributeName? := by
  have hf : n.isFunction = false := by rw [isFunction, hk]; decide
  apply attributeName?_congr (h.children hf) kind text
  intro a b hab ha
  have hfa : a.isFunction = false := by rw [isFunction, ha]; decide
  exact parts.map_text (hab.children hfa)

end Rebodied

/-- The tree with `m` in place of the subtree at the end of a way down. -/
def replaceAt (n : Node) : List Nat → Node → Node
  | [], m => m
  | i :: path, m => .mk n.head (n.children.modify i fun c => c.replaceAt path m)

theorem getElem?_replaceAt (n : Node) (i : Nat) (path : List Nat) (m : Node) (k : Nat) :
    (n.replaceAt (i :: path) m).children[k]? =
      n.children[k]?.map fun c => if i = k then c.replaceAt path m else c := by
  rw [replaceAt, children_mk, List.getElem?_modify]
  rfl

theorem rebodied_children {n m : Node} {i : Nat} {path : List Nat}
    (h : ∀ {c}, n.children[i]? = some c → c.Rebodied (c.replaceAt path m)) :
    List.Forall₂ Rebodied n.children (n.replaceAt (i :: path) m).children := by
  refine forall₂_of_getElem? (by rw [replaceAt, children_mk, List.length_modify]) fun {k c d} hc hd => ?_
  rw [getElem?_replaceAt, hc, Option.map_some, Option.some.injEq] at hd
  subst hd
  by_cases hk : i = k
  · rw [if_pos hk]
    exact h (hk ▸ hc)
  · rw [if_neg hk]
    exact .refl c

end Node

/-! ## Sites outside the function -/

namespace Site

theorem SameView.of_rebodied {s s' : Site} (h : s.node.Rebodied s'.node)
    (hc : List.Forall₂ Node.Rebodied s.node.children s'.node.children) : SameView s s' where
  kind := h.kind
  attributeName? := h.attributeName?
  scopeBinding? name := by
    apply Node.Rebodied.parts.scopeBinding? Node.Rebodied.sameNames h
    · exact fun _ => rel_find? hc fun _ _ hcd => by rw [hcd.field]
    · exact fun _ => rel_filter hc fun _ _ hcd => by rw [hcd.kind, hcd.named]

theorem follow_of_node_eq {s s' w : Site} {path : List Nat} (h : List.Forall₂ SameView s.ancestors s'.ancestors)
    (hn : s'.node = s.node) (hw : s.follow path = some w) :
    ∃ w', s'.follow path = some w' ∧ w'.node = w.node ∧ List.Forall₂ SameView w.ancestors w'.ancestors := by
  induction path generalizing s s' with
  | nil =>
      cases hw
      exact ⟨s', rfl, hn, h⟩
  | cons i path ih =>
      obtain ⟨c, hc, hw⟩ := follow_cons.mp hw
      rw [getElem?_children, Option.map_eq_some_iff] at hc
      obtain ⟨n, hi, rfl⟩ := hc
      have hi' : s'.children[i]? = some (s'.descend n i) := by rw [getElem?_children, hn, hi, Option.map_some]
      have hview : List.Forall₂ SameView (s.descend n i).ancestors (s'.descend n i).ancestors :=
        .cons (.of_node_eq hn.symm) h
      obtain ⟨w', hw', hrest⟩ := ih hview rfl hw
      exact ⟨w', follow_cons.mpr ⟨_, hi', hw'⟩, hrest⟩

section
variable {g : Site} {j : Nat} {b b' : Node} (hg : g.node.isFunction = true) (hb : g.node.children[j]? = some b)
  (hbody : b.field = some "body") (hbody' : b'.field = some "body")
include hg hb hbody hbody'

theorem rebodied_replaceAt {s : Site} {q : List Nat} (hq : s.follow q = some g) :
    s.node.Rebodied (s.node.replaceAt (q ++ [j]) b') := by
  induction q generalizing s with
  | nil =>
      cases hq
      refine .mk rfl (by rw [List.nil_append, Node.replaceAt, Node.children_mk, List.length_modify]) ?_
      intro i c d hc hd hne
      rw [List.nil_append, Node.getElem?_replaceAt, hc, Option.map_some, Option.some.injEq] at hd
      subst hd
      by_cases hi : j = i
      · subst hi
        obtain rfl : b = c := Option.some.inj (hb.symm.trans hc)
        rw [if_pos rfl] at hne
        exact absurd ⟨hg, hbody, hbody'⟩ hne
      · rw [if_neg hi]
        exact .refl c
  | cons i q ih =>
      obtain ⟨c, hc, hq⟩ := follow_cons.mp hq
      refine .of_children rfl (Node.rebodied_children fun {n} hn => ?_)
      obtain rfl : c.node = n := Option.some.inj ((getElem?_node hc).symm.trans hn)
      exact ih hq

/-- What lies on the way to the function looks the same. -/
theorem sameView_replaceAt {s s' : Site} {i : Nat} {q : List Nat} (hs : s'.node = s.node.replaceAt (i :: q ++ [j]) b')
    (hq : s.follow (i :: q) = some g) : SameView s s' := by
  obtain ⟨c, hc, hq⟩ := follow_cons.mp hq
  have hchildren : List.Forall₂ Node.Rebodied s.node.children s'.node.children := by
    rw [hs]
    refine Node.rebodied_children fun {n} hn => ?_
    obtain rfl : c.node = n := Option.some.inj ((getElem?_node hc).symm.trans hn)
    exact rebodied_replaceAt hg hb hbody hbody' hq
  exact .of_rebodied (.of_children (by rw [hs]; rfl) hchildren) hchildren

/-- A way that leads neither into the function nor to something around it leads to the same subtree in both trees, and
what encloses the two looks the same. -/
theorem follow_replaceAt {s s' n : Site} {q p : List Nat} (hs : s'.node = s.node.replaceAt (q ++ [j]) b')
    (h : List.Forall₂ SameView s.ancestors s'.ancestors) (hq : s.follow q = some g) (hp : s.follow p = some n)
    (hin : ¬ q <+: p) (hout : ¬ p <+: q) :
    ∃ n', s'.follow p = some n' ∧ n'.node = n.node ∧ List.Forall₂ SameView n.ancestors n'.ancestors := by
  induction q generalizing s s' p with
  | nil => exact absurd List.nil_prefix hin
  | cons i q ih =>
      cases p with
      | nil => exact absurd List.nil_prefix hout
      | cons k p =>
          have hview := sameView_replaceAt hg hb hbody hbody' hs hq
          obtain ⟨c, hc, hcp⟩ := follow_cons.mp hp
          have hk : s'.children[k]? =
              some (s'.descend (if i = k then c.node.replaceAt (q ++ [j]) b' else c.node) k) := by
            rw [getElem?_children, hs, List.cons_append, Node.getElem?_replaceAt, getElem?_node hc, Option.map_some,
              Option.map_some]
          have hrest : ∀ m, List.Forall₂ SameView c.ancestors (s'.descend m k).ancestors := fun m => by
            rw [ancestors_of_child (List.mem_of_getElem? hc)]
            exact .cons hview h
          -- the two ways part here, or both go on towards the function
          by_cases hik : i = k
          · rw [if_pos hik] at hk
            subst hik
            rw [List.prefix_cons_inj] at hin hout
            rw [follow, hc, Option.bind_some] at hq
            obtain ⟨n', hn', hsame⟩ := ih rfl (hrest _) hq hcp hin hout
            exact ⟨n', follow_cons.mpr ⟨_, hk, hn'⟩, hsame⟩
          · rw [if_neg hik] at hk
            obtain ⟨n', hn', hsame⟩ := follow_of_node_eq (hrest c.node) rfl hcp
            exact ⟨n', follow_cons.mpr ⟨_, hk, hn'⟩, hsame⟩

end

/-- Whatever takes the place of the body of a function, each site that neither lies in the function nor has it below is
still there with the same subtree, and it is a candidate, constant and hoistable just as before. -/
theorem decided_outside_function (t : Node) (q : List Nat) {g : Site} (hq : (root t).follow q = some g)
    (hg : g.node.isFunction = true) (j : Nat) {b : Node} (hb : g.node.children[j]? = some b)
    (hbody : b.field = some "body") (b' : Node) (hbody' : b'.field = some "body") (p : List Nat) {n : Site}
    (hp : (root t).follow p = some n) (hin : ¬ q <+: p) (hout : ¬ p <+: q) (accepts : String → Bool) :
    ∃ n', (root (t.replaceAt (q ++ [j]) b')).follow p = some n' ∧ n'.node = n.node ∧
      n'.isCandidate accepts = n.isCandidate accepts ∧
      (Resolver.lexical.constant n').value = (Resolver.lexical.constant n).value ∧
      (Resolver.lexical.hoistable n').value = (Resolver.lexical.hoistable n).value := by
  have hroot : (root (t.replaceAt (q ++ [j]) b')).node = (root t).node.replaceAt (q ++ [j]) b' := rfl
  obtain ⟨n', hn', hnode, hview⟩ := follow_replaceAt hg hb hbody hbody' hroot .nil hq hp hin hout
  have halike : n.node.Alike n'.node := hnode ▸ .refl n.node
  refine ⟨n', hn', hnode, ?_, ?_, ?_⟩
  · exact (isCandidate_congr hview (congrArg Node.kind hnode.symm) (by rw [hnode]) (by rw [hnode]) accepts).symm
  · exact (Resolver.constant_congr halike hview).symm
  · exact (Resolver.hoistable_congr halike hview).symm

end Site

namespace Sample

/-- `{}`, as the body of a function. -/
def emptyBody : Node :=
  .mk { kind := "statement_block", field := some "body", leading := " " } [.token "\x7b", .token "\x7d"]

/-- `{ let B; }`, as the body of a function. -/
def shadowingBody : Node :=
  .mk { kind := "statement_block", field := some "body", leading := " " }
    [.token "\x7b",
      .mk { kind := Kind.lexicalDeclaration, leading := " " }
        [.token "let", .mk { kind := Kind.declarator, leading := " " } [.identifier "B" "" (some "name")], .token ";"],
      .token "\x7d" " "]

/-- `import { B } from 'x'; function App() { function help() body return <B on={() => B} />; }`. -/
def helped (body : Node) : Node :=
  .mk { kind := Kind.program }
    [importB,
      .mk { kind := "function_declaration", leading := "\n" }
        [.token "function", .identifier "App" " " (some "name"), noParameters,
          .mk { kind := "statement_block", field := some "body", leading := " " }
            [.token "\x7b",
              .mk { kind := "function_declaration", leading := " " }
                [.token "function", .identifier "help" " " (some "name"), noParameters, body],
              .mk { kind := "return_statement", leading := " " }
                [.token "return", markup "on" (callback (.identifier "B" " " (some "body"))), .token ";"],
              .token "\x7d" " "]]]

/-- A `B` in the body of the helper next to it does not keep the callback from being hoisted. -/
theorem helper_body_secluded :
    ∃ n', (Site.root (helped shadowingBody)).follow [1, 3, 2, 1, 2, 2, 1] = some n' ∧
      n'.node = callback (.identifier "B" " " (some "body")) ∧ n'.isCandidate (fun _ => true) = true ∧
      (Resolver.lexical.hoistable n').value = true := by
  obtain ⟨n', hn', hnode, hcandidate, _, hhoistable⟩ :=
    Site.decided_outside_function (helped emptyBody) [1, 3, 1] rfl rfl 3 rfl rfl shadowingBody rfl
      [1, 3, 2, 1, 2, 2, 1] rfl (by decide) (by decide) (fun _ => true)
  refine ⟨n', hn', hnode, hcandidate.trans ?_, hhoistable.trans ?_⟩
  · decide +kernel
  · decide +kernel

end Sample

end AttrHoist
