import AttrHoist.Attribute
import AttrHoist.Proofs.Lemmas.Copies

/-!
# What is asked of the surroundings of a site

Besides the subtree at a site, the analyses ask what encloses it: is it in attribute position, is it inside a function,
and which declarations do its names refer to. Sites whose surroundings give the same answers are decided alike.
-/

namespace AttrHoist

theorem Node.attributeName?_congr {R : Node → Node → Prop} {n m : Node} (h : List.Forall₂ R n.children m.children)
    (hkind : ∀ {a b}, R a b → a.kind = b.kind) (htext : ∀ {a b}, R a b → a.text = b.text)
    (hspace : ∀ {a b}, R a b → a.kind = Kind.namespaceName → a.children.map text = b.children.map text) :
    n.attributeName? = m.attributeName? := by
  unfold attributeName?
  revert h
  generalize n.children = as, m.children = bs
  intro h
  cases h with
  | nil => rfl
  | @cons a b _ _ hab _ =>
      rw [List.head?_cons, List.head?_cons, Option.map_some, Option.map_some, ← hkind hab, ← htext hab]
      by_cases hn : a.kind = Kind.namespaceName
      · rw [if_pos hn, if_pos hn, hspace hab hn]
      · rw [if_neg hn, if_neg hn]

namespace Site

/-- Sites that look the same to what they enclose. -/
structure SameView (a b : Site) : Prop where
  kind : a.kind = b.kind
  attributeName? : a.kind = Kind.markupAttribute → a.node.attributeName? = b.node.attributeName?
  scopeBinding? : ∀ name, a.node.scopeBinding? name = b.node.scopeBinding? name

theorem SameView.of_node_eq {a b : Site} (h : a.node = b.node) : SameView a b :=
  ⟨congrArg Node.kind h, fun _ => by rw [h], fun _ => by rw [h]⟩

variable {s s' : Site} (h : List.Forall₂ SameView s.ancestors s'.ancestors)
include h

theorem insideFunction_congr : s.insideFunction = s'.insideFunction :=
  rel_any h fun _ _ hab => congrArg (fun k => decide (k ∈ Kind.functions)) hab.kind

theorem isAttributeValue_congr (accepts : String → Bool) : s.isAttributeValue accepts = s'.isAttributeValue accepts := by
  unfold isAttributeValue
  revert h
  generalize s.ancestors = as, s'.ancestors = bs
  intro h
  cases h with
  | nil => rfl
  | cons hbraces h =>
      cases h with
      | nil => rfl
      | @cons attr _ _ _ hattr h =>
          cases h with
          | nil => rfl
          | cons helement _ =>
              by_cases hk : attr.kind = Kind.markupAttribute
              · simp only [hbraces.kind, ← hattr.kind, helement.kind, hattr.attributeName? hk]
              · simp only [← hattr.kind, beq_eq_false_iff_ne.mpr hk, Bool.and_false, Bool.false_and]

theorem isBranchOfValue_congr (hfield : s.node.field = s'.node.field) (accepts : String → Bool) :
    s.isBranchOfValue accepts = s'.isBranchOfValue accepts := by
  obtain ⟨n, trail⟩ := s
  obtain ⟨n', trail'⟩ := s'
  unfold isBranchOfValue
  cases trail with
  | nil => cases trail' with
    | nil => rfl
    | cons => cases h
  | cons c cs => cases trail' with
    | nil => cases h
    | cons c' cs' =>
        obtain ⟨hp, hrest⟩ := List.forall₂_cons.mp h
        have hp' : isAttributeValue accepts ⟨c.parent, cs⟩ = isAttributeValue accepts ⟨c'.parent, cs'⟩ := by
          apply isAttributeValue_congr
          exact hrest
        simp only [parent?, ancestors, alongTrail, List.head?_cons, Option.any_some, hp.kind, hp', hfield]

/-- In surroundings that look the same, the same sites are considered for hoisting. -/
theorem isCandidate_congr (hkind : s.kind = s'.kind) (hnamed : s.node.named = s'.node.named)
    (hfield : s.node.field = s'.node.field) (accepts : String → Bool) :
    s.isCandidate accepts = s'.isCandidate accepts := by
  rw [isCandidate, isCandidate, hkind, hnamed, isAttributeValue_congr h, isBranchOfValue_congr h hfield]

end Site

namespace Resolver
variable {s s' : Site}

theorem fixed_of_sameView (hs : s.node.Alike s'.node) (h : List.Forall₂ Site.SameView s.ancestors s'.ancestors)
    {i j : Site} (hij : Site.Parallel s s' i j) : lexical.fixed j = lexical.fixed i := by
  have hdecl := hij.lexicalDeclaration hs (h.imp fun _ _ hab => hab.scopeBinding? i.text)
  have htext : j.text = i.text := (hij.alike hs).text.symm
  rw [fixed, fixed, resolve_lexical, resolve_lexical, hdecl, htext]

/-- In surroundings that look the same, copies of one expression are constant together. -/
theorem constant_congr (hs : s.node.Alike s'.node) (h : List.Forall₂ Site.SameView s.ancestors s'.ancestors) :
    (lexical.constant s).value = (lexical.constant s').value := by
  apply Bool.eq_iff_iff.mpr
  constructor
  · apply constant_of_parallel hs (fun hij hi => ?_) .here
    rw [fixed_of_sameView hs h hij]
    exact hi
  · apply constant_of_parallel hs.symm (fun hij hi => ?_) .here
    rw [← fixed_of_sameView hs h (hij.symm hs.symm)]
    exact hi

theorem hoistable_congr (hs : s.node.Alike s'.node) (h : List.Forall₂ Site.SameView s.ancestors s'.ancestors) :
    (lexical.hoistable s).value = (lexical.hoistable s').value := by
  rw [hoistable, hoistable, Site.insideFunction_congr h]
  split
  · exact constant_congr hs h
  · rfl

end Resolver

end AttrHoist
