import AttrHoist.Options
import AttrHoist.Proofs.Clashes
import Mathlib.Algebra.GroupWithZero.Nat

/-!
# Passes use up candidates

A value that a pass moves was a candidate and is none in its declaration, and all other candidates stay what they are.
So the candidates of a tree bound what any passes over it can move, and a pass that is made again and again comes to an
end.
-/

namespace AttrHoist

/-! ## The filter of the default options -/

theorem firstBack_some (pos extra : Nat) : firstBack some pos extra = some (pos + extra) := by
  cases extra <;> rfl

/-- Some run of characters, if only the empty one, stands at the start of every name. -/
theorem Options.accepts_default (name : String) : Options.default.accepts name = true := by
  refine List.any_eq_true.mpr ⟨0, by simp, ?_⟩
  simp [Pattern.route, Pattern.single?, repeatChar, firstBack_some]

/-! ## Counting candidates -/

namespace Site
variable {accepts filter : String → Bool}

section
variable (hle : ∀ name, accepts name = true → filter name = true) {s : Site}
include hle

theorem isAttributeValue_mono (h : s.isAttributeValue accepts = true) : s.isAttributeValue filter = true := by
  obtain ⟨braces, attr, element, rest, ha, hb, hattr, he, hn⟩ := isAttributeValue_iff.mp h
  refine isAttributeValue_iff.mpr ⟨braces, attr, element, rest, ha, hb, hattr, he, ?_⟩
  rw [Option.any_eq_true] at hn ⊢
  obtain ⟨name, hname, hacc⟩ := hn
  exact ⟨name, hname, hle name hacc⟩

/-- A wider filter finds more candidates. -/
theorem isCandidate_mono (h : s.isCandidate accepts = true) : s.isCandidate filter = true := by
  rw [isCandidate, Bool.and_eq_true, Bool.or_eq_true] at h ⊢
  refine ⟨h.1, h.2.imp (isAttributeValue_mono hle) fun hb => ?_⟩
  obtain ⟨p, hp, hk, hf, hv⟩ := isBranchOfValue_iff.mp hb
  exact isBranchOfValue_iff.mpr ⟨p, hp, hk, hf, isAttributeValue_mono hle hv⟩

end

/-- How many candidates lie at some sites and below them. -/
def candidates (filter : String → Bool) (ss : List Site) : Nat := (ss.flatMap walk).countP (isCandidate filter)

theorem candidates_append (ss ts : List Site) :
    candidates filter (ss ++ ts) = candidates filter ss + candidates filter ts := by
  rw [candidates, List.flatMap_append, List.countP_append]
  rfl

theorem candidates_cons (s : Site) (ss : List Site) :
    candidates filter (s :: ss) = candidates filter [s] + candidates filter ss :=
  candidates_append [s] ss

theorem candidates_singleton (s : Site) : candidates filter [s] =
    candidates filter s.children + if s.isCandidate filter = true then 1 else 0 := by
  rw [candidates, List.flatMap_singleton, walk_eq, List.countP_cons]
  rfl

/-- Sites that are no candidates can be skipped. -/
theorem candidates_skip {ss : List Site} (h : ∀ s ∈ ss, s.isCandidate filter = false) :
    candidates filter ss = candidates filter (ss.flatMap children) := by
  induction ss with
  | nil => rfl
  | cons s ss ih =>
      have hs : ¬ s.isCandidate filter = true := by simp [h s]
      rw [candidates_cons, candidates_singleton, if_neg hs, List.flatMap_cons, candidates_append,
        ih fun a ha => h a (List.mem_cons_of_mem s ha), Nat.add_zero]

theorem candidates_of_pairs {ds vs : List Site}
    (h : List.Forall₂ (fun d v => candidates filter [d] + 1 = candidates filter [v]) ds vs) :
    candidates filter ds + vs.length = candidates filter vs := by
  induction h with
  | nil => rfl
  | @cons d v ds vs hdv _ ih =>
      rw [candidates_cons d, candidates_cons v, ← ih, ← hdv, List.length_cons]
      omega

/-- Below a value that carries nothing itself, a copy has as many candidates. -/
theorem candidates_copy {s t : Site} (hs : s.node.Alike t.node) (hk : s.kind ∉ Kind.carriers) :
    candidates filter t.children = candidates filter s.children := by
  have hbelow : List.Forall₂ (ParallelBelow s t) (s.children.flatMap walk) (t.children.flatMap walk) :=
    forall₂_flatMap (Parallel.here.children hs) fun a _ b hab => hab.walk hs
  rw [candidates, candidates, List.countP_eq_length_filter, List.countP_eq_length_filter]
  exact (rel_filter hbelow fun a b hab => (hab.isCandidate hs hk).symm).length_eq.symm

/-- All candidates of a declaration lie below its value. -/
theorem candidates_declaration {out v : Node} {j i : Nat} (hd : out.children[j]? = some (declarationOf i v)) :
    candidates filter [(root out).descend (declarationOf i v) j] = candidates filter (ofValue out j i v).children := by
  let d : Site := (root out).descend (declarationOf i v) j
  let e : Site := d.descend (declaratorOf i v) 1
  have hstatement : d.isCandidate filter = false :=
    Pass.not_candidate_statement (mem_children.mpr ⟨j, _, hd, rfl⟩)
  have hparts : d.children.flatMap children = e.children := by cases v; rfl
  have hvalue : e.children.flatMap children = (ofValue out j i v).children := List.append_nil _
  have hnot : ∀ c ∈ d.children, c.isCandidate filter = false :=
    fun c hc => Pass.not_candidate_of_child hc (show Kind.lexicalDeclaration ∉ Kind.holders by decide)
  have hnot' : ∀ c ∈ e.children, c.isCandidate filter = false :=
    fun c hc => Pass.not_candidate_of_child hc (show Kind.declarator ∉ Kind.holders by decide)
  calc candidates filter [d]
      = candidates filter d.children := by rw [candidates_singleton, hstatement]; rfl
    _ = candidates filter e.children := by rw [candidates_skip hnot, hparts]
    _ = candidates filter (ofValue out j i v).children := by rw [candidates_skip hnot', hvalue]

end Site

/-! ## One pass -/

namespace Pass
variable {accepts filter : String → Bool} {r : Resolver} {t : Node}

theorem Image.children {s s' : Site} (h : Image accepts r t s s') (hs : taken accepts r s = false) {cs : List Site}
    (hl : s.children.length = cs.length) (hcs : cs <+: s'.children) : List.Forall₂ (Image accepts r t) s.children cs := by
  refine List.forall₂_iff_get.mpr ⟨hl, fun i hi hi' => ?_⟩
  refine .child h hs (i := i) (List.getElem?_eq_getElem hi) ?_
  obtain ⟨rest, hrest⟩ := hcs
  rw [← hrest, List.getElem?_append_left hi']
  exact List.getElem?_eq_getElem hi'

mutual
/-- The candidates at a site are those at its image and those of the values that were taken. -/
theorem Rewritten.candidates (filter : String → Bool) {s k n vs} (h : Rewritten (taken accepts r) s k n vs) {s' : Site}
    (hi : Image accepts r t s s') (hn : s'.node = n) :
    Site.candidates filter [s] = Site.candidates filter [s'] + Site.candidates filter vs := by
  match h with
  | .taken _ =>
      -- a reference is no candidate, and nothing lies below it
      have hleaf : s'.children = [] := by rw [Site.children, hn]; rfl
      have hnot : s'.isCandidate filter = false := by rw [Site.isCandidate, Site.kind, hn]; rfl
      rw [Site.candidates_singleton s', hleaf, hnot]
      exact (Nat.zero_add _).symm
  | @Rewritten.kept _ _ _ ns _ hs hc =>
      have hnodes : s'.children.map Site.node = ns := by rw [Site.map_node_children, hn]; rfl
      have hl : s.children.length = s'.children.length := by
        rw [hc.becomes.length_eq, ← hnodes, List.length_map]
      have hbelow := RewrittenAll.candidates filter hc (hi.children hs hl List.prefix_rfl) hnodes
      rw [Site.candidates_singleton s, Site.candidates_singleton s', hi.isCandidate hs, hbelow]
      omega

theorem RewrittenAll.candidates (filter : String → Bool) {ss k ns vs} (h : RewrittenAll (taken accepts r) ss k ns vs)
    {ss' : List Site} (hi : List.Forall₂ (Image accepts r t) ss ss') (hn : ss'.map Site.node = ns) :
    Site.candidates filter ss = Site.candidates filter ss' + Site.candidates filter vs := by
  match h with
  | .nil => cases hi; rfl
  | @RewrittenAll.cons _ s ss _ _ _ vs ws h hs =>
      cases hi with
      | @cons _ s' _ ss' hi his =>
          obtain ⟨hn, hns⟩ := List.cons.inj hn
          have hhead := Rewritten.candidates filter h hi hn
          have htail := RewrittenAll.candidates filter hs his hns
          rw [Site.candidates_cons s, Site.candidates_cons s' ss', Site.candidates_append, hhead, htail]
          omega
end

section
variable (hle : ∀ name, accepts name = true → filter name = true)
include hle

/-- A value that is moved is a candidate no more, and all that lies below it is as before. -/
theorem candidates_moved {i : Nat} {v : Site} (hi : (t.accepted accepts r)[i]? = some v) :
    Site.candidates filter
        [(Site.root (t.hoist accepts r).value).descend (declarationOf i v.node) (t.children.length + i)] + 1 =
      Site.candidates filter [v] := by
  have hv : v ∈ t.accepted accepts r := List.mem_of_getElem? hi
  have hc : v.isCandidate filter = true :=
    Site.isCandidate_mono hle (isCandidate_of_taken (Node.mem_accepted.mp hv).2.1)
  rw [Site.candidates_declaration (Node.declaration_hoist hi),
    Site.candidates_copy (alike_asValue v.node) (Site.not_carrier_of_constant (Node.constant_of_accepted hv)),
    Site.candidates_singleton v, if_pos hc]

theorem candidates_declarations :
    Site.candidates filter ((Site.root (t.hoist accepts r).value).children.drop t.children.length) +
      (t.accepted accepts r).length = Site.candidates filter (t.accepted accepts r) := by
  refine Site.candidates_of_pairs (List.forall₂_iff_get.mpr ⟨?_, fun i hd hv => ?_⟩)
  · rw [List.length_drop, Site.length_children, Site.root, t.length_children_hoist accepts r, Nat.add_sub_cancel_left]
  · have hi := List.getElem?_eq_getElem hv
    have hsite : ((Site.root (t.hoist accepts r).value).children.drop t.children.length)[i]? =
        some ((Site.root (t.hoist accepts r).value).descend (declarationOf i ((t.accepted accepts r).get ⟨i, hv⟩).node)
          (t.children.length + i)) := by
      rw [List.getElem?_drop, Site.getElem?_children, Site.root, Node.declaration_hoist hi]
      rfl
    rw [List.getElem?_eq_getElem hd] at hsite
    rw [List.get_eq_getElem, Option.some.inj hsite]
    exact candidates_moved hle hi

theorem candidates_hoist :
    Site.candidates filter (Site.root (t.hoist accepts r).value).children + (t.accepted accepts r).length =
      Site.candidates filter (Site.root t).children := by
  obtain ⟨ns, hr, ho⟩ := t.hoist_eq accepts r
  have hns : ns.length = t.children.length := by
    rw [← hr.becomes.length_eq, Site.length_children]
    rfl
  have hnodes : ((Site.root (t.hoist accepts r).value).children.take t.children.length).map Site.node = ns := by
    rw [List.map_take, Site.map_node_children, Site.root, ho, Node.children_mk, List.take_left' hns]
  have hl : (Site.root t).children.length =
      ((Site.root (t.hoist accepts r).value).children.take t.children.length).length := by
    rw [hr.becomes.length_eq, ← hnodes, List.length_map]
  have himages := Image.root.children (not_taken_root accepts r t) hl (List.take_prefix _ _)
  have hkept := RewrittenAll.candidates filter hr himages hnodes
  have hmoved := candidates_declarations (t := t) (r := r) hle
  -- the statements up to here are images of the old ones, and the declarations follow
  rw [← List.take_append_drop t.children.length (Site.root (t.hoist accepts r).value).children, Site.candidates_append,
    Nat.add_assoc, hmoved, hkept]

end

end Pass

namespace Node

/-- How many sites of a tree the default options consider for hoisting. -/
def candidateCount (t : Node) : Nat := t.sites.countP (Site.isCandidate Options.default.accepts)

theorem candidateCount_eq (t : Node) :
    t.candidateCount = Site.candidates Options.default.accepts (Site.root t).children := by
  rw [candidateCount, sites, Site.walk_eq, List.countP_cons, Pass.not_candidate_root]
  rfl

theorem candidateCount_hoist (t : Node) (accepts : String → Bool) (r : Resolver) :
    (t.hoist accepts r).value.candidateCount + (t.accepted accepts r).length = t.candidateCount := by
  rw [candidateCount_eq, candidateCount_eq]
  exact Pass.candidates_hoist fun name _ => Options.accepts_default name

/-! ## Several passes -/

theorem candidateCount_hoistAll (t : Node) (passes : List ((String → Bool) × Resolver)) :
    (t.hoistAll passes).candidateCount + (t.movedCounts passes).sum = t.candidateCount := by
  induction passes generalizing t with
  | nil => rfl
  | cons p passes ih =>
      have hfirst := t.candidateCount_hoist p.1 p.2
      have hrest := ih (t.hoist p.1 p.2).value
      rw [hoistAll, movedCounts, List.sum_cons]
      omega

theorem hoistAll_replicate_of_self {t : Node} {accepts : String → Bool} {r : Resolver}
    (h : (t.hoist accepts r).value = t) (k : Nat) : t.hoistAll (List.replicate k (accepts, r)) = t := by
  induction k with
  | zero => rfl
  | succ k ih => rw [List.replicate_succ, hoistAll, h, ih]

/-- Each pass before the last that changes anything takes a candidate away. -/
theorem hoist_hoistAll_replicate {t : Node} {accepts : String → Bool} {r : Resolver} {k : Nat}
    (hk : t.candidateCount ≤ k) :
    ((t.hoistAll (List.replicate k (accepts, r))).hoist accepts r).value =
      t.hoistAll (List.replicate k (accepts, r)) := by
  have hcount := t.candidateCount_hoist accepts r
  induction k generalizing t with
  | zero => exact hoist_eq_self_of_nil (List.length_eq_zero_iff.mp (show (t.accepted accepts r).length = 0 by omega))
  | succ k ih =>
      by_cases hnil : t.accepted accepts r = []
      · have hself := hoist_eq_self_of_nil hnil
        rw [hoistAll_replicate_of_self hself, hself]
      · have hpos := List.length_pos_iff.mpr hnil
        exact ih (show (t.hoist accepts r).value.candidateCount ≤ k by omega) (candidateCount_hoist _ accepts r)

/-- A pass appends as many declarations as candidates disappear. So passes with any filters and resolvers move no more
values together than the first tree has candidates, and after as many passes of one sort as there are candidates
another one changes nothing. -/
theorem hoist_uses_up_candidates (t : Node) :
    (∀ accepts r, (t.hoist accepts r).value.children.length = t.children.length + (t.accepted accepts r).length ∧
        (t.hoist accepts r).value.candidateCount + (t.accepted accepts r).length = t.candidateCount) ∧
      (∀ passes, (t.movedCounts passes).sum ≤ t.candidateCount) ∧
      ∀ accepts r k, t.candidateCount ≤ k →
        ((t.hoistAll (List.replicate k (accepts, r))).hoist accepts r).value =
          t.hoistAll (List.replicate k (accepts, r)) := by
  refine ⟨fun accepts r => ⟨length_children_hoist accepts r t, candidateCount_hoist t accepts r⟩, ?_, ?_⟩
  · intro passes
    have hsum := t.candidateCount_hoistAll passes
    omega
  · intro accepts r k hk
    exact hoist_hoistAll_replicate hk

end Node

/-- The sample module has two candidates, one in the other, and the second goes only in a second pass. -/
theorem Sample.nested_used_up :
    nested.candidateCount = 2 ∧ nested.movedCounts [(fun _ => true, .lexical), (fun _ => true, .lexical)] = [1, 1] ∧
      ((nested.hoistAll (List.replicate 2 (fun _ => true, .lexical))).hoist (fun _ => true) .lexical).value =
        nested.hoistAll (List.replicate 2 (fun _ => true, .lexical)) := by
  have hcount : nested.candidateCount = 2 := by
    rw [Node.candidateCount, show Options.default.accepts = fun _ => true from funext Options.accepts_default]
    decide +kernel
  exact ⟨hcount, by decide +kernel, nested.hoist_uses_up_candidates.2.2 _ _ 2 (Nat.le_of_eq hcount)⟩

end AttrHoist
