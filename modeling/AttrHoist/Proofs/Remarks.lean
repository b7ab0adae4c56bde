import AttrHoist.Proofs.Exemption
import AttrHoist.Proofs.Outermost
import AttrHoist.Proofs.Lemmas.Bare
import Mathlib.Logic.Relation

/-!
# Comments and blanks decide nothing

Every analysis gives the same answer at a site and at its counterpart in the bare tree, and the bare tree stays the
same when comments come and go and when the text around nodes changes. So a pass hoists the same values.
-/

namespace AttrHoist

namespace Site

/-! ## Surroundings -/

theorem sameView_bare (s : Site) : SameView s s.bare where
  kind := s.kind_bare.symm
  attributeName? hk := (s.node.attributeName?_bare hk).symm
  scopeBinding? name := (s.node.scopeBinding?_bare name).symm

theorem sameView_ancestors_bare (s : Site) : List.Forall₂ SameView s.ancestors s.bare.ancestors := by
  rw [ancestors_bare, List.forall₂_map_right_iff, List.forall₂_same]
  exact fun a _ => a.sameView_bare

theorem isCandidate_bare (s : Site) (accepts : String → Bool) : s.bare.isCandidate accepts = s.isCandidate accepts := by
  symm
  apply isCandidate_congr s.sameView_ancestors_bare
  · exact s.kind_bare.symm
  · exact s.node.named_bare.symm
  · exact s.node.field_bare.symm

theorem insideFunction_bare (s : Site) : s.bare.insideFunction = s.insideFunction :=
  (insideFunction_congr s.sameView_ancestors_bare).symm

theorem lexicalDeclaration_bare (s : Site) : s.bare.lexicalDeclaration = s.lexicalDeclaration := by
  refine lexicalDeclaration_congr s.text_bare ?_
  exact (rel_findSome? s.sameView_ancestors_bare fun a b hab => hab.scopeBinding? s.text).symm

/-! ## Reads -/

theorem isRead_bare (s : Site) : s.bare.isRead = s.isRead := by
  simp only [isRead, isBuiltinTag, parent?_bare, kind_bare, text_bare, node_bare, Node.field_bare, Option.any_map]

theorem reads_bare (s : Site) : s.bare.reads = s.reads.map bare := by
  refine s.thinned_walk.filter isRead_bare fun w hw => ?_
  rw [isRead, hw]
  rfl

theorem flatMap_reads_bare (o : Option Site) :
    (o.map bare).toList.flatMap reads = (o.toList.flatMap reads).map bare := by
  cases o with
  | none => rfl
  | some s => simp [reads_bare]

theorem functionReads_bare (f : Site) : f.bare.functionReads = f.functionReads.map bare := by
  rw [functionReads, functionReads, child?_bare, child?_bare, child?_bare, ← Option.map_or, flatMap_reads_bare,
    flatMap_reads_bare, List.map_append]

/-- Scopes are told apart by their depth, which the bare tree keeps. -/
theorem boundWithin_bare {f i : Site} (hi : i ∈ f.functionReads) : f.bare.boundWithin i.bare = f.boundWithin i := by
  obtain ⟨c, hc, hic⟩ := child_of_functionReads hi
  obtain ⟨q, hq, hqc⟩ := ancestors_split hic
  rw [ancestors_of_child hc] at hq
  have hdeep : ∀ a ∈ q, f.trail.length < a.trail.length := fun a ha => length_lt_of_below hc (hqc a ha)
  have hdeep' : ∀ a ∈ q.map bare, f.bare.trail.length < a.trail.length := by
    intro a' ha'
    obtain ⟨a, ha, rfl⟩ := List.mem_map.mp ha'
    simpa only [bare, List.length_map] using hdeep a ha
  rw [boundWithin_eq, boundWithin_eq, ancestors_bare, hq, List.map_append, List.map_cons, findSome?_scopeAnswer hdeep,
    findSome?_scopeAnswer hdeep', List.any_map, text_bare, node_bare, Node.binds_bare]
  simp only [Function.comp_def, node_bare, Node.innerBinds_bare]

theorem freeReads_bare (f : Site) : f.bare.freeReads = f.freeReads.map bare := by
  rw [freeReads, freeReads, functionReads_bare, List.filter_map]
  congr 1
  apply List.filter_congr
  intro i hi
  rw [Function.comp_apply, boundWithin_bare hi]

end Site

/-! ## Constancy -/

/-- The same requirement in the bare tree. -/
def Requirement.bare : Requirement → Requirement
  | part s => part s.bare
  | fixed s => fixed s.bare
  | impossible reason => impossible reason

namespace Site

theorem memberRequirement_bare (m : Site) : m.bare.memberRequirement = m.memberRequirement.bare := by
  rw [memberRequirement, memberRequirement, kind_bare, child?_bare, child?_bare]
  by_cases hk : m.kind ≠ Kind.pair
  · rw [if_pos hk, if_pos hk]
    rfl
  rw [if_neg hk, if_neg hk]
  cases m.child? "key" with
  | none => rfl
  | some key =>
      cases m.child? "value" with
      | none => rfl
      | some value =>
          simp only [Option.map_some, kind_bare]
          by_cases hc : key.kind = Kind.computedName
          · rw [if_pos hc, if_pos hc]
            rfl
          · rw [if_neg hc, if_neg hc]
            rfl

theorem substitutions_bare (s : Site) : s.bare.substitutions = s.substitutions.map bare := by
  rw [substitutions, substitutions, namedChildren_bare, List.filter_map, List.flatMap_map, List.map_flatMap]
  simp only [Function.comp_def, kind_bare, namedChildren_bare]

theorem functionRequirements_bare (f : Site) :
    f.bare.functionRequirements = f.functionRequirements.map Requirement.bare := by
  rw [functionRequirements, functionRequirements, kind_bare, node_bare, Node.readsReceiver_bare, freeReads_bare]
  split
  · rfl
  · rw [List.map_map, List.map_map]
    rfl

theorem requirements_bare (s : Site) : s.bare.requirements = s.requirements.map Requirement.bare := by
  unfold requirements
  rw [kind_bare, namedChildren_bare, substitutions_bare, child?_bare, child?_bare, functionRequirements_bare]
  split
  · rfl
  split
  · rw [List.map_map, List.map_map]
    exact List.map_congr_left fun m _ => m.memberRequirement_bare
  split
  · rw [List.map_map, List.map_map]
    rfl
  split
  · cases s.child? "left" with
    | none => rfl
    | some left =>
        cases s.child? "right" with
        | none => rfl
        | some right => rfl
  split
  · rfl
  split
  · rfl
  · rfl

end Site

namespace Resolver

variable {r : Resolver} (hr : r.BuiltIn)
include hr

theorem fixed_bare (s : Site) : r.fixed s.bare = r.fixed s := by
  have h : r.resolve s.bare = r.resolve s := by
    cases hr with
    | lexical => exact s.lexicalDeclaration_bare
    | table entries => rw [resolve_table, resolve_table, Site.text_bare]
  rw [fixed, fixed, h, Site.text_bare]

theorem constant_bare (s : Site) : r.constant s.bare = r.constant s := by
  induction s using Site.induction_on_parts with
  | step s ih =>
      rw [constant_eq, constant_eq, Site.requirements_bare, List.map_map]
      congr 1
      apply List.map_congr_left
      intro q hq
      cases q with
      | part p => exact ih p hq
      | fixed i => exact fixed_bare hr i
      | impossible reason => rfl

theorem hoistable_bare (s : Site) : r.hoistable s.bare = r.hoistable s := by
  rw [hoistable, hoistable, Site.insideFunction_bare, Site.kind_bare, constant_bare hr]

end Resolver

/-! ## Passes -/

namespace Pass
variable {r : Resolver} (hr : r.BuiltIn)
include hr

theorem acceptable_bare (accepts : String → Bool) (s : Site) :
    acceptable accepts r s.bare = acceptable accepts r s := by
  rw [acceptable, acceptable, Site.isCandidate_bare, Resolver.hoistable_bare hr]

theorem outermost_bare (accepts : String → Bool) (s : Site) :
    outermost (acceptable accepts r) s.bare = outermost (acceptable accepts r) s := by
  rw [outermost, outermost, acceptable_bare hr, Site.ancestors_bare, List.all_map]
  simp only [Function.comp_def, acceptable_bare hr]

end Pass

namespace Node

theorem accepted_bare (t : Node) (accepts : String → Bool) {r : Resolver} (hr : r.BuiltIn) :
    t.bare.accepted accepts r = (t.accepted accepts r).map Site.bare := by
  rw [accepted_eq, accepted_eq]
  refine (Site.root t).thinned_walk.filter (Pass.outermost_bare hr accepts) fun w hw => ?_
  rw [Pass.outermost, Pass.acceptable, Site.isCandidate, hw]
  simp

/-! ## Edits -/

/-- One change of the text around a node, or one remark that comes or goes, anywhere in a tree. -/
inductive Edit : Node → Node → Prop
  | space (h : Head) (cs : List Node) (leading trailing : String) :
      Edit (.mk h cs) (.mk { h with leading, trailing } cs)
  | insert {h : Head} {before after : List Node} {c : Node} (hc : c.isRemark = true)
      (hp : h.kind.pinned before.length = false) : Edit (.mk h (before ++ after)) (.mk h (before ++ c :: after))
  | remove {h : Head} {before after : List Node} {c : Node} (hc : c.isRemark = true)
      (hp : h.kind.pinned before.length = false) : Edit (.mk h (before ++ c :: after)) (.mk h (before ++ after))
  | inside {h : Head} {before after : List Node} {c d : Node} (hcd : Edit c d) :
      Edit (.mk h (before ++ c :: after)) (.mk h (before ++ d :: after))

theorem isRemark_bare {c : Node} (h : c.isRemark = true) : c.bare.isRemark = true := by
  rw [isRemark, kind_bare, field_bare, children_bare, kind_of_isRemark h, field_of_isRemark h, children_of_isRemark h]
  rfl

/-- Behind a position where remarks come and go, positions do not matter. -/
theorem bareAll_succ {k : Kind} {i : Nat} (hp : k.pinned i = false) (cs : List Node) :
    bareAll k (i + 1) cs = bareAll k i cs := by
  induction cs generalizing i with
  | nil => rfl
  | cons c cs ih =>
      have hp' : k.pinned (i + 1) = false := by
        simp only [Kind.pinned, Bool.or_eq_false_iff, Bool.and_eq_false_iff] at hp ⊢
        exact ⟨hp.1, .inr rfl⟩
      rw [bareAll, bareAll, hp, hp', ih hp']

theorem bareAll_insert {k : Kind} {before after : List Node} {c : Node} (hc : c.isRemark = true)
    (hp : k.pinned before.length = false) : bareAll k 0 (before ++ c :: after) = bareAll k 0 (before ++ after) := by
  rw [bareAll_append, bareAll_append, Nat.zero_add, bareAll, hp, isRemark_bare hc, bareAll_succ hp]
  rfl

theorem Edit.bare_eq {n m : Node} (h : Edit n m) : n.bare = m.bare := by
  induction h with
  | space => rfl
  | insert hc hp => rw [bare, bare, bareAll_insert hc hp]
  | remove hc hp => rw [bare, bare, bareAll_insert hc hp]
  | inside _ ih => rw [bare, bare, bareAll_append, bareAll_append, bareAll, bareAll, ih]

theorem bare_eq_of_edits {t u : Node} (h : Relation.ReflTransGen Edit t u) : t.bare = u.bare := by
  induction h with
  | refl => rfl
  | tail _ h ih => rw [ih, h.bare_eq]

end Node

/-! ## Counterparts -/

/-- Sites that stand at the same place when remarks are not counted. -/
def Site.Counterpart (s v : Site) : Prop := s.bare.address = v.bare.address

namespace Node
variable {t u : Node} (h : t.bare = u.bare)
include h

theorem bare_mem_sites {s : Site} (hs : s ∈ t.sites) (hk : s.kind ≠ Kind.comment) : s.bare ∈ u.bare.sites := by
  rw [← h]
  refine ((Site.root t).thinned_walk.mem_or hs).resolve_left ?_
  rw [Site.kind_bare]
  exact hk

theorem exists_counterpart {s : Site} (hs : s ∈ t.sites) (hk : s.kind ≠ Kind.comment) :
    ∃ v ∈ u.sites, v.kind ≠ Kind.comment ∧ s.Counterpart v := by
  obtain ⟨v, hv, hbare⟩ := (Site.root u).thinned_walk.of_mem (bare_mem_sites h hs hk)
  refine ⟨v, hv, ?_, by rw [Site.Counterpart, hbare]⟩
  rw [← v.kind_bare, hbare, Site.kind_bare]
  exact hk

theorem bare_eq_of_counterpart {s v : Site} (hs : s ∈ t.sites) (hv : v ∈ u.sites) (hk : s.kind ≠ Kind.comment)
    (hk' : v.kind ≠ Kind.comment) (hsv : s.Counterpart v) : s.bare = v.bare :=
  Site.eq_of_address (bare_mem_sites h hs hk) (bare_mem_sites rfl hv hk') hsv

theorem accepted_rel (accepts : String → Bool) {r : Resolver} (hr : r.BuiltIn) :
    List.Forall₂ (fun s v => s.bare = v.bare) (t.accepted accepts r) (u.accepted accepts r) := by
  have heq : (t.accepted accepts r).map Site.bare = (u.accepted accepts r).map Site.bare := by
    rw [← accepted_bare t accepts hr, ← accepted_bare u accepts hr, h]
  rw [← List.forall₂_eq_eq_eq, List.forall₂_map_left_iff, List.forall₂_map_right_iff] at heq
  exact heq

end Node

/-- Entries of the same number and name for expressions that are the same but for remarks and blanks. -/
def Entry.Counterpart (e d : Entry) : Prop :=
  e.index = d.index ∧ e.name = d.name ∧ e.expression.bare = d.expression.bare

theorem entriesFrom_rel {vs ws : List Site} (h : List.Forall₂ (fun s v => s.bare = v.bare) vs ws) (k : Nat) :
    List.Forall₂ Entry.Counterpart (entriesFrom k vs) (entriesFrom k ws) := by
  have hleading : ∀ n : Node, (n.withLeading "").bare = n.bare := fun n => by cases n; rfl
  induction h generalizing k with
  | nil => exact .nil
  | @cons s v _ _ hsv _ ih =>
      refine .cons ⟨rfl, rfl, ?_⟩ (ih (k + 1))
      rw [hleading, hleading]
      exact congrArg Site.node hsv

/-- When remarks come and go in a tree and the text around its nodes changes, every site outside of comments has a
counterpart, counterparts get the same answers from every analysis, and a pass takes counterparts, in the same order
and under the same names. The resolver is one that comes with the library. -/
theorem Node.decided_without_remarks {t u : Node} (h : Relation.ReflTransGen Edit t u) (accepts : String → Bool)
    (r : Resolver) (hr : r.BuiltIn) :
    (∀ s ∈ t.sites, s.kind ≠ Kind.comment → ∃ v ∈ u.sites, v.kind ≠ Kind.comment ∧ s.Counterpart v) ∧
      (∀ v ∈ u.sites, v.kind ≠ Kind.comment → ∃ s ∈ t.sites, s.kind ≠ Kind.comment ∧ s.Counterpart v) ∧
      (∀ s ∈ t.sites, ∀ v ∈ u.sites, s.kind ≠ Kind.comment → v.kind ≠ Kind.comment → s.Counterpart v →
        s.node.bare = v.node.bare ∧ s.isCandidate accepts = v.isCandidate accepts ∧ r.constant s = r.constant v ∧
          r.hoistable s = r.hoistable v) ∧
      List.Forall₂ Site.Counterpart (t.accepted accepts r) (u.accepted accepts r) ∧
      List.Forall₂ Entry.Counterpart (t.drained accepts r) (u.drained accepts r) := by
  have hbare := bare_eq_of_edits h
  have haccepted := accepted_rel hbare accepts hr
  refine ⟨fun s hs hk => exists_counterpart hbare hs hk, ?_, ?_, ?_, ?_⟩
  · intro v hv hk
    obtain ⟨s, hs, hk', hsv⟩ := exists_counterpart hbare.symm hv hk
    exact ⟨s, hs, hk', hsv.symm⟩
  · intro s hs v hv hk hk' hsv
    have heq := bare_eq_of_counterpart hbare hs hv hk hk' hsv
    refine ⟨congrArg Site.node heq, ?_, ?_, ?_⟩
    · rw [← s.isCandidate_bare, heq, v.isCandidate_bare]
    · rw [← Resolver.constant_bare hr, heq, Resolver.constant_bare hr]
    · rw [← Resolver.hoistable_bare hr, heq, Resolver.hoistable_bare hr]
  · exact haccepted.imp fun s v hsv => by rw [Site.Counterpart, hsv]
  · rw [drained_eq, drained_eq]
    exact entriesFrom_rel haccepted 0

namespace Sample

/-- `/* a */`. -/
def remark : Node := .mk { kind := Kind.comment, text := "/* a */" } []

/-- `import { B } from 'x'; function App() { return <B style={/* a */{ a: 1 }} />; }`. -/
def remarked : Node :=
  .mk { kind := Kind.program }
    [importB,
      component
        (.mk { kind := "jsx_self_closing_element", leading := " " }
          [.token "<", .identifier "B" "" (some "name"),
            .mk { kind := Kind.markupAttribute, field := some "attribute", leading := " " }
              [.mk { kind := "property_identifier", text := "style" } [], .token "=",
                .mk { kind := Kind.markupContainer } [.token "\x7b", remark, record, .token "\x7d"]],
            .token "/>" " "])]

theorem plain_edit_remarked : plain.Edit remarked :=
  @Node.Edit.inside _ [_] _ _ _ <| @Node.Edit.inside _ [_, _, _] _ _ _ <| @Node.Edit.inside _ [_] _ _ _ <|
    @Node.Edit.inside _ [_] _ _ _ <| @Node.Edit.inside _ [_, _] _ _ _ <| @Node.Edit.inside _ [_, _] _ _ _ <|
      @Node.Edit.insert _ [_] _ remark rfl rfl

/-- The value behind the comment is hoisted as it is without it. -/
theorem remarked_hoisted_as_plain :
    plain.Edit remarked ∧
      (remarked.drained (fun _ => true) .lexical).map (fun e => (e.index, e.name, e.expression.bare)) =
        [(0, "__$hoisted_o0", record.bare)] := by
  have hedit := plain_edit_remarked
  obtain ⟨_, _, _, _, hentries⟩ := Node.decided_without_remarks (.single hedit) (fun _ => true) .lexical .lexical
  have hplain : (plain.drained (fun _ => true) .lexical).map (fun e => (e.index, e.name, e.expression.bare)) =
      [(0, "__$hoisted_o0", record.bare)] := by
    decide +kernel
  refine ⟨hedit, ?_⟩
  rw [← hplain, eq_comm, ← List.forall₂_eq_eq_eq, List.forall₂_map_left_iff, List.forall₂_map_right_iff]
  exact hentries.imp fun e d ⟨hi, hn, he⟩ => by rw [hi, hn, he]

end Sample

end AttrHoist
