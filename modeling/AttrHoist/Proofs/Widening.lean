import AttrHoist.Proofs.Convergence
import AttrHoist.Proofs.Exemption

/-!
# Wider filters and resolvers

A pass with a wider filter, or with a resolver that takes more identifiers for fixed, may move a value as a whole of which
a narrower pass moves parts. But all that the narrower pass moves is moved, by itself or as a part.
-/

namespace AttrHoist

/-! ## Constancy by rules -/

namespace Site

/-- Whether a site is an identifier, be it the short form of a property. -/
def isIdentifier (s : Site) : Bool := s.kind == Kind.identifier || s.kind == Kind.shorthandProperty

/-- Constancy as a rule, for any judgement of which identifiers are fixed. -/
inductive ConstantBy (fixed : Site → Prop) : Site → Prop
  | intro {s : Site} (parts : ∀ p, .part p ∈ s.requirements → ConstantBy fixed p)
      (reads : ∀ i, .fixed i ∈ s.requirements → fixed i)
      (possible : ∀ reason, .impossible reason ∉ s.requirements) : ConstantBy fixed s

/-- What a requirement of an expression is about lies in it, and only identifiers have to be fixed. -/
def Concerns (s : Site) : Requirement → Prop
  | .part p => p ∈ s.walk
  | .fixed i => i ∈ s.walk ∧ i.isIdentifier = true
  | .impossible _ => True

variable {s c : Site} {q : Requirement}

theorem isIdentifier_of_functionReads {i : Site} (h : i ∈ s.functionReads) : i.isIdentifier = true := by
  have hread : i.isRead = true := by
    rcases List.mem_append.mp h with h | h
    · obtain ⟨_, _, h⟩ := List.mem_flatMap.mp h
      exact (List.mem_filter.mp h).2
    · obtain ⟨_, _, h⟩ := List.mem_flatMap.mp h
      exact (List.mem_filter.mp h).2
  exact (Bool.and_eq_true_iff.mp hread).1

theorem concerns_functionRequirements (h : q ∈ s.functionRequirements) : s.Concerns q := by
  unfold functionRequirements at h
  split at h
  · rw [List.mem_singleton.mp h]
    trivial
  · obtain ⟨i, hi, rfl⟩ := List.mem_map.mp h
    have hread := (List.mem_filter.mp hi).1
    obtain ⟨c, hc, hic⟩ := child_of_functionReads hread
    exact ⟨mem_walk_of_child hc hic, isIdentifier_of_functionReads hread⟩

theorem concerns_memberRequirement (h : c ∈ s.children) : s.Concerns c.memberRequirement := by
  cases hq : c.memberRequirement with
  | part p => exact mem_walk_trans (child_mem_walk h) (child_mem_walk (part_of_memberRequirement hq))
  | fixed i =>
      unfold memberRequirement at hq
      repeat' split at hq
      all_goals cases hq
  | impossible => trivial

theorem mem_walk_of_substitutions (h : c ∈ s.substitutions) : c ∈ s.walk := by
  obtain ⟨sub, hsub, hc⟩ := List.mem_flatMap.mp h
  have hs := mem_of_namedChildren (List.mem_filter.mp hsub).1
  exact mem_walk_trans (child_mem_walk hs) (child_mem_walk (mem_of_namedChildren hc))

theorem concerns_requirements (h : q ∈ s.requirements) : s.Concerns q := by
  unfold requirements at h
  split at h
  · cases h
  split at h
  · obtain ⟨m, hm, rfl⟩ := List.mem_map.mp h
    exact concerns_memberRequirement (mem_of_namedChildren hm)
  split at h
  · obtain ⟨p, hp, rfl⟩ := List.mem_map.mp h
    exact mem_walk_of_substitutions hp
  split at h
  · split at h
    · next left right hl hr =>
        rcases List.mem_cons.mp h with rfl | h
        · exact child_mem_walk (mem_of_child? hl)
        · rw [List.mem_singleton.mp h]
          exact child_mem_walk (mem_of_child? hr)
    · rw [List.mem_singleton.mp h]
      trivial
  split at h
  · next hk =>
      rw [List.mem_singleton.mp h]
      exact ⟨self_mem_walk s, by rw [isIdentifier, hk]; rfl⟩
  split at h
  · exact concerns_functionRequirements h
  · rw [List.mem_singleton.mp h]
    trivial

/-- The rule is monotone: it asks identifiers in the expression to be fixed and never not to be. -/
theorem ConstantBy.mono {fixed fixed' : Site → Prop} (h : s.ConstantBy fixed)
    (hle : ∀ i ∈ s.walk, i.isIdentifier = true → fixed i → fixed' i) : s.ConstantBy fixed' := by
  induction h with
  | @intro s parts reads possible ih =>
      refine .intro (fun p hp => ih p hp fun i hi => ?_) (fun i hi => ?_) possible
      · exact hle i (mem_walk_trans (concerns_requirements hp) hi)
      · obtain ⟨hw, hid⟩ := concerns_requirements hi
        exact hle i hw hid (reads i hi)

/-- The test of a resolver decides the rule. -/
theorem constantBy_iff (r : Resolver) (s : Site) :
    s.ConstantBy (fun i => (r.resolve i).value.isFixed = true) ↔ (r.constant s).value = true := by
  constructor
  · intro h
    induction h with
    | @intro s parts reads possible ih =>
        rw [Resolver.value_constant, List.all_eq_true]
        intro q hq
        cases q with
        | part p => exact ih p hq
        | fixed i => exact (r.value_fixed i).trans (reads i hq)
        | impossible reason => exact absurd hq (possible reason)
  · intro h
    induction s using induction_on_parts with
    | step s ih =>
        rw [Resolver.value_constant, List.all_eq_true] at h
        refine .intro (fun p hp => ?_) (fun i hi => ?_) (fun reason hr => ?_)
        · exact ih p hp (h _ hp)
        · exact (r.value_fixed i).symm.trans (h _ hi)
        · exact Bool.noConfusion (h _ hr)

/-! ## Outermost sites -/

theorem mem_walk_of_ancestor_root {t : Node} {a : Site} (hs : s ∈ t.sites) (ha : a ∈ s.ancestors) : a ∈ t.sites := by
  obtain ⟨q, hq, hqw⟩ := ancestors_split hs
  rw [hq, show (root t).ancestors = [] from rfl, List.append_nil] at ha
  exact hqw a ha

/-- A site with some property either is outermost among those that have it or lies in one that is. -/
theorem exists_outermost {P : Site → Prop} (hs : P s) :
    (∀ a ∈ s.ancestors, ¬ P a) ∨ ∃ w ∈ s.ancestors, P w ∧ ∀ a ∈ w.ancestors, ¬ P a := by
  induction hl : s.trail.length using Nat.strongRecOn generalizing s with
  | ind length ih =>
      by_cases h : ∃ a ∈ s.ancestors, P a
      · obtain ⟨a, ha, hp⟩ := h
        rcases ih _ (hl ▸ length_lt_of_ancestor ha) hp rfl with hout | ⟨w, hw, hpw, hout⟩
        · exact Or.inr ⟨a, ha, hp, hout⟩
        · exact Or.inr ⟨w, ancestors_trans ha hw, hpw, hout⟩
      · exact Or.inl fun a ha hp => h ⟨a, ha, hp⟩

end Site

/-! ## Passes -/

namespace Node

/-- A pass with this filter and any way of resolving identifiers takes the value at a site. -/
structure TakenBy (accepts : String → Bool) (resolve : Site → Declaration) (s : Site) : Prop where
  candidate : s.isCandidate accepts = true
  inside : s.insideFunction = true
  constant : s.ConstantBy fun i => (resolve i).isFixed = true

/-- The pass moves the value at a site: it takes it and nothing around it. -/
structure MovedBy (t : Node) (accepts : String → Bool) (resolve : Site → Declaration) (v : Site) : Prop where
  site : v ∈ t.sites
  taken : TakenBy accepts resolve v
  outermost : ∀ a ∈ v.ancestors, ¬ TakenBy accepts resolve a

theorem takenBy_iff {accepts : String → Bool} {r : Resolver} {s : Site} :
    TakenBy accepts (fun i => (r.resolve i).value) s ↔ Pass.taken accepts r s = true := by
  rw [Pass.taken_eq, Bool.and_eq_true, Bool.and_eq_true, ← Site.constantBy_iff]
  exact ⟨fun h => ⟨⟨h.candidate, h.inside⟩, h.constant⟩, fun h => ⟨h.1.1, h.1.2, h.2⟩⟩

theorem movedBy_iff {t : Node} {accepts : String → Bool} {r : Resolver} {v : Site} :
    t.MovedBy accepts (fun i => (r.resolve i).value) v ↔ v ∈ t.accepted accepts r := by
  rw [mem_accepted]
  constructor
  · intro h
    exact ⟨h.site, takenBy_iff.mp h.taken, fun a ha => Bool.eq_false_iff.mpr fun ht => h.outermost a ha (takenBy_iff.mpr ht)⟩
  · rintro ⟨hs, ht, hout⟩
    exact ⟨hs, takenBy_iff.mpr ht, fun a ha hta => Bool.eq_false_iff.mp (hout a ha) (takenBy_iff.mp hta)⟩

section
variable {t : Node} {accepts filter : String → Bool} {resolve resolve' : Site → Declaration}
  (hfilter : ∀ name, accepts name = true → filter name = true)
  (hresolve : ∀ i ∈ t.sites, i.isIdentifier = true → (resolve i).isFixed = true → (resolve' i).isFixed = true)
include hfilter hresolve

theorem TakenBy.mono {s : Site} (hs : s ∈ t.sites) (h : TakenBy accepts resolve s) : TakenBy filter resolve' s where
  candidate := Site.isCandidate_mono hfilter h.candidate
  inside := h.inside
  constant := h.constant.mono fun i hi => hresolve i (Site.mem_walk_trans hs hi)

theorem MovedBy.mono {v : Site} (h : t.MovedBy accepts resolve v) :
    t.MovedBy filter resolve' v ∨ ∃ w, t.MovedBy filter resolve' w ∧ w ∈ v.ancestors := by
  have ht := h.taken.mono hfilter hresolve h.site
  rcases Site.exists_outermost (P := TakenBy filter resolve') ht with hout | ⟨w, hw, hp, hout⟩
  · exact Or.inl ⟨h.site, ht, hout⟩
  · exact Or.inr ⟨w, ⟨Site.mem_walk_of_ancestor_root h.site hw, hp, hout⟩, hw⟩

end

/-- If a filter accepts all that another accepts, and identifiers that one resolver takes for imports or constants of the
module are taken for such by another, then each value that the pass with the narrower pair moves is moved by the pass with
the wider pair or lies in a value that it moves. This holds for any functions that resolve identifiers, and for the
resolvers at hand. -/
theorem moved_of_wider (t : Node) (accepts filter : String → Bool)
    (hfilter : ∀ name, accepts name = true → filter name = true) :
    (∀ resolve resolve' : Site → Declaration,
        (∀ i ∈ t.sites, i.isIdentifier = true → (resolve i).isFixed = true → (resolve' i).isFixed = true) →
        ∀ v, t.MovedBy accepts resolve v →
          t.MovedBy filter resolve' v ∨ ∃ w, t.MovedBy filter resolve' w ∧ w ∈ v.ancestors) ∧
      ∀ r r' : Resolver,
        (∀ i ∈ t.sites, i.isIdentifier = true → (r.resolve i).value.isFixed = true → (r'.resolve i).value.isFixed = true) →
        ∀ v ∈ t.accepted accepts r, v ∈ t.accepted filter r' ∨ ∃ w ∈ t.accepted filter r', w ∈ v.ancestors := by
  refine ⟨fun resolve resolve' hresolve v hv => hv.mono hfilter hresolve, fun r r' hresolve v hv => ?_⟩
  have hmono := (movedBy_iff.mpr hv).mono hfilter hresolve
  simpa only [movedBy_iff] using hmono

end Node

namespace Sample

/-- The value of the inner markup in the callback. -/
def innerValue : Site := ((Site.root nested).follow [1, 3, 1, 1, 2, 2, 1, 2, 2, 2, 1]).getD (.root nested)

/-- The pass for one attribute moves the inner value, without a resolver to speak of; the pass for all attributes moves the
callback around it instead. -/
theorem nested_moved_as_part :
    (∀ name : String, (name == "style") = true → true = true) ∧
      innerValue ∈ nested.accepted (· == "style") (.table []) ∧ innerValue ∉ nested.accepted (fun _ => true) .lexical ∧
      ∃ w ∈ nested.accepted (fun _ => true) .lexical, w ∈ innerValue.ancestors := by
  have hfilter : ∀ name : String, (name == "style") = true → true = true := fun _ _ => rfl
  have hmoved : innerValue ∈ nested.accepted (· == "style") (.table []) := by decide +kernel
  have hnot : innerValue ∉ nested.accepted (fun _ => true) .lexical := by decide +kernel
  have hwider := (nested.moved_of_wider (· == "style") (fun _ => true) hfilter).2 (.table []) .lexical
    (fun _ _ _ h => by cases h) innerValue hmoved
  exact ⟨hfilter, hmoved, hnot, hwider.resolve_left hnot⟩

end Sample

end AttrHoist
