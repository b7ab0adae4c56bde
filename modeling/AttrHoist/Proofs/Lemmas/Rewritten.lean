import AttrHoist.Pass
import AttrHoist.Proofs.Lemmas.Sites
import Mathlib.Data.List.Forall2

/-!
# What the pass does to a tree

The replacing traversal as a relation between a site and the tree that takes its place, with the sites whose
values were taken on the way. `Node.hoist_eq` describes the result of a whole pass by this relation.
-/

namespace AttrHoist

/-- The name of the value that is taken after `k` others. -/
def generatedName (k : Nat) : String := generatedStem ++ toString k

/-- Whether a text starts as generated names do. -/
def hasStem (text : String) : Bool := generatedStem.toList.isPrefixOf text.toList

theorem hasStem_generatedName (k : Nat) : hasStem (generatedName k) = true := by
  rw [hasStem, List.isPrefixOf_iff_prefix, generatedName, String.toList_append]
  exact List.prefix_append _ _

/-- No text in a tree starts as generated names do. -/
def Node.Fresh (t : Node) : Prop := ∀ n ∈ t.walk, hasStem n.text = false

instance (t : Node) : Decidable t.Fresh := inferInstanceAs (Decidable (∀ n ∈ t.walk, hasStem n.text = false))

theorem Node.Fresh.text {t : Node} (h : t.Fresh) : hasStem t.text = false := h t (self_mem_walk t)

theorem Node.Fresh.child {t c : Node} (h : t.Fresh) (hc : c ∈ t.children) : c.Fresh :=
  fun n hn => h n (mem_walk_of_child hc hn)

/-! ## Registered values -/

namespace Registry

/-- The registry with several more expressions. -/
def insertAll (r : Registry) (ns : List Node) : Registry := ns.foldl insert r

theorem insertAll_append (r : Registry) (ns ms : List Node) :
    r.insertAll (ns ++ ms) = (r.insertAll ns).insertAll ms :=
  List.foldl_append

theorem stem_insertAll (r : Registry) (ns : List Node) : (r.insertAll ns).stem = r.stem := by
  induction ns generalizing r with
  | nil => rfl
  | cons n ns ih => exact ih (r.insert n)

theorem size_insert (r : Registry) (n : Node) : (r.insert n).size = r.size + 1 := by
  simp [insert, add, size]

theorem size_insertAll (r : Registry) (ns : List Node) : (r.insertAll ns).size = r.size + ns.length := by
  induction ns generalizing r with
  | nil => rfl
  | cons n ns ih =>
      have h := ih (r.insert n)
      rw [size_insert] at h
      rw [List.length_cons]
      exact h.trans (by omega)

theorem entries_insertAll (r : Registry) (ns : List Node) (h : r.stem = generatedStem) :
    (r.insertAll ns).entries =
      r.entries ++ (ns.zipIdx r.size).map fun p => ⟨p.2, generatedName p.2, p.1.withLeading ""⟩ := by
  induction ns generalizing r with
  | nil => simp [insertAll]
  | cons n ns ih =>
      have hs : (r.insert n).stem = generatedStem := h
      have hn : r.nextName = generatedName r.size := by rw [nextName, h, generatedName]
      have hrec := ih (r.insert n) hs
      rw [size_insert] at hrec
      rw [show r.insertAll (n :: ns) = (r.insert n).insertAll ns from rfl, hrec]
      simp [insert, add, hn]

end Registry

/-- A value as it stands in a declaration. -/
def Node.asValue (v : Node) : Node := v.mapHead fun h => { h with leading := " ", field := some "value" }

/-- The declaration of the value that is taken after `i` others. -/
def declarationOf (i : Nat) (v : Node) : Node :=
  (Entry.mk i (generatedName i) (v.withLeading "")).declaration

/-- The declarations of all values taken in a pass. -/
def declarationsOf (vs : List Node) : List Node :=
  vs.zipIdx.map fun p => declarationOf p.2 p.1

theorem getElem?_declarationsOf (vs : List Node) (i : Nat) :
    (declarationsOf vs)[i]? = vs[i]?.map (declarationOf i) := by
  rw [declarationsOf, List.getElem?_map, List.getElem?_zipIdx]
  cases vs[i]? with
  | none => rfl
  | some v => simp

theorem length_declarationsOf (vs : List Node) : (declarationsOf vs).length = vs.length := by
  simp [declarationsOf]

/-! ## The relation -/

namespace Pass

/-- Whether a pass takes the value at a site, without the record of how it came to that. -/
def taken (accepts : String → Bool) (r : Resolver) (s : Site) : Bool := (takes accepts r s).value

mutual
/-- `Rewritten p s k n vs`: when `k` names are in use, `n` takes the place of the tree at `s`, and `vs` are the
outermost sites below `s` that `p` takes, in reading order. -/
inductive Rewritten (p : Site → Bool) : Site → Nat → Node → List Site → Prop
  | taken {s k} (h : p s = true) :
      Rewritten p s k (.identifier (generatedName k) s.node.leading s.node.field) [s]
  | kept {s k ns vs} (h : p s = false) (hc : RewrittenAll p s.children k ns vs) :
      Rewritten p s k (.mk s.node.head ns) vs

/-- The same for consecutive sites. -/
inductive RewrittenAll (p : Site → Bool) : List Site → Nat → List Node → List Site → Prop
  | nil {k} : RewrittenAll p [] k [] []
  | cons {s ss k n ns vs ws} (h : Rewritten p s k n vs) (hs : RewrittenAll p ss (k + vs.length) ns ws) :
      RewrittenAll p (s :: ss) k (n :: ns) (vs ++ ws)
end

theorem Rewritten.inv_taken {p s k n vs} (h : Rewritten p s k n vs) (hp : p s = true) :
    n = .identifier (generatedName k) s.node.leading s.node.field ∧ vs = [s] := by
  match h with
  | .taken _ => exact ⟨rfl, rfl⟩
  | .kept hf _ => rw [hp] at hf; cases hf

theorem Rewritten.inv_kept {p s k n vs} (h : Rewritten p s k n vs) (hp : p s = false) :
    ∃ ns, n = .mk s.node.head ns ∧ RewrittenAll p s.children k ns vs := by
  match h with
  | .taken ht => rw [hp] at ht; cases ht
  | .kept _ hc => exact ⟨_, rfl, hc⟩

/-! ## The traversal satisfies the relation -/

section
variable (accept : Site → Traced Bool)

theorem value_replace_of_taken {h : Head} {cs : List Node} {trail : List Crumb}
    (ha : (accept ⟨.mk h cs, trail⟩).value = true) (reg : Registry) :
    (replace accept trail (.mk h cs) reg).value =
      (.identifier reg.nextName h.leading h.field, reg.insert (.mk h cs)) := by
  simp [replace, ha, Registry.register]

theorem value_replace_of_kept {h : Head} {cs : List Node} {trail : List Crumb}
    (ha : (accept ⟨.mk h cs, trail⟩).value = false) (reg : Registry) :
    (replace accept trail (.mk h cs) reg).value =
      (.mk h (replaceAll accept (.mk h cs) trail 0 cs reg).value.1,
        (replaceAll accept (.mk h cs) trail 0 cs reg).value.2) := by
  simp [replace, ha]

theorem value_replaceAll_cons (parent : Node) (trail : List Crumb) (i : Nat) (c : Node) (cs : List Node)
    (reg : Registry) :
    (replaceAll accept parent trail i (c :: cs) reg).value =
      ((replace accept (⟨parent, i⟩ :: trail) c reg).value.1 ::
          (replaceAll accept parent trail (i + 1) cs
            (replace accept (⟨parent, i⟩ :: trail) c reg).value.2).value.1,
        (replaceAll accept parent trail (i + 1) cs
          (replace accept (⟨parent, i⟩ :: trail) c reg).value.2).value.2) := by
  simp [replaceAll]

-- The registry grows by what is taken and nothing else, so its size is the number of the next name.
mutual
theorem replace_rewritten : (n : Node) → (trail : List Crumb) → (reg : Registry) → reg.stem = generatedStem →
    ∃ vs, Rewritten (fun s => (accept s).value) ⟨n, trail⟩ reg.size (replace accept trail n reg).value.1 vs ∧
      (replace accept trail n reg).value.2 = reg.insertAll (vs.map Site.node)
  | .mk h cs, trail, reg, hs => by
      cases ha : (accept ⟨.mk h cs, trail⟩).value with
      | true =>
          rw [value_replace_of_taken accept ha]
          refine ⟨[⟨.mk h cs, trail⟩], ?_, rfl⟩
          rw [Registry.nextName, hs]
          exact Rewritten.taken (s := ⟨.mk h cs, trail⟩) ha
      | false =>
          rw [value_replace_of_kept accept ha]
          obtain ⟨vs, hr, he⟩ := replaceAll_rewritten ⟨.mk h cs, trail⟩ 0 cs reg hs
          exact ⟨vs, Rewritten.kept (s := ⟨.mk h cs, trail⟩) ha hr, he⟩

theorem replaceAll_rewritten : (s : Site) → (i : Nat) → (cs : List Node) → (reg : Registry) →
    reg.stem = generatedStem →
    ∃ vs, RewrittenAll (fun s => (accept s).value) ((cs.zipIdx i).map fun c => s.descend c.1 c.2) reg.size
        (replaceAll accept s.node s.trail i cs reg).value.1 vs ∧
      (replaceAll accept s.node s.trail i cs reg).value.2 = reg.insertAll (vs.map Site.node)
  | _, _, [], _, _ => ⟨[], .nil, rfl⟩
  | s, i, c :: cs, reg, hs => by
      rw [value_replaceAll_cons]
      obtain ⟨vs, hv, hreg⟩ := replace_rewritten c (⟨s.node, i⟩ :: s.trail) reg hs
      have hstem : (replace accept (⟨s.node, i⟩ :: s.trail) c reg).value.2.stem = generatedStem := by
        rw [hreg, Registry.stem_insertAll, hs]
      obtain ⟨ws, hw, hreg'⟩ := replaceAll_rewritten s (i + 1) cs _ hstem
      refine ⟨vs ++ ws, ?_, ?_⟩
      · rw [hreg, Registry.size_insertAll, List.length_map] at hw
        rw [hreg]
        exact .cons hv hw
      · rw [hreg', hreg, List.map_append, Registry.insertAll_append]
end

end

/-! ## Which sites are taken -/

/-- Whether a site is taken and nothing that encloses it is. -/
def outermost (p : Site → Bool) (s : Site) : Bool := p s && s.ancestors.all fun a => !p a

theorem not_outermost_of_ancestor {p : Site → Bool} {s a : Site} (ha : a ∈ s.ancestors) (hp : p a = true) :
    outermost p s = false := by
  have h : (s.ancestors.all fun a => !p a) = false := by
    rw [List.all_eq_false]
    exact ⟨a, ha, by simp [hp]⟩
  rw [outermost, h, Bool.and_false]

theorem outermost_of_all {p : Site → Bool} {s : Site} (h : ∀ a ∈ s.ancestors, p a = false) :
    outermost p s = p s := by
  have ha : (s.ancestors.all fun a => !p a) = true := by
    rw [List.all_eq_true]
    intro a ha
    rw [h a ha, Bool.not_false]
  rw [outermost, ha, Bool.and_true]

mutual
theorem Rewritten.sites_eq {p s k n vs} (h : Rewritten p s k n vs) (ha : ∀ a ∈ s.ancestors, p a = false) :
    vs = s.walk.filter (outermost p) := by
  match h with
  | .taken hp =>
      have hbelow : (s.children.flatMap Site.walk).filter (outermost p) = [] := by
        rw [List.filter_eq_nil_iff]
        intro w hw
        obtain ⟨c, hc, hw⟩ := List.mem_flatMap.mp hw
        rw [not_outermost_of_ancestor (Site.mem_ancestors_of_below hc hw) hp]
        exact Bool.false_ne_true
      rw [Site.walk_eq, List.filter_cons_of_pos (by rw [outermost_of_all ha, hp]), hbelow]
  | .kept hp hc =>
      rw [Site.walk_eq, List.filter_cons_of_neg (by rw [outermost_of_all ha, hp]; exact Bool.false_ne_true)]
      refine RewrittenAll.sites_eq hc ?_
      intro c hcs a hac
      rw [Site.ancestors_of_child hcs] at hac
      rcases List.mem_cons.mp hac with rfl | hac
      · exact hp
      · exact ha a hac

theorem RewrittenAll.sites_eq {p ss k ns vs} (h : RewrittenAll p ss k ns vs)
    (ha : ∀ s ∈ ss, ∀ a ∈ s.ancestors, p a = false) : vs = (ss.flatMap Site.walk).filter (outermost p) := by
  match h with
  | .nil => rfl
  | .cons h hs =>
      rw [List.flatMap_cons, List.filter_append]
      exact congrArg₂ _ (Rewritten.sites_eq h (ha _ (by simp))) (RewrittenAll.sites_eq hs fun t ht => ha t (by simp [ht]))
end

theorem isCandidate_of_taken {accepts : String → Bool} {r : Resolver} {s : Site} (h : taken accepts r s = true) :
    s.isCandidate accepts = true := by
  rw [taken, takes] at h
  split at h
  · assumption
  · cases h

theorem taken_eq {accepts : String → Bool} {r : Resolver} {s : Site} :
    taken accepts r s = (s.isCandidate accepts && s.insideFunction && (r.constant s).value) := by
  rw [taken, takes]
  cases s.isCandidate accepts with
  | false => rfl
  | true =>
      rw [if_pos rfl, Resolver.hoistable]
      cases s.insideFunction with
      | false => rfl
      | true => rfl

theorem not_candidate_root (accepts : String → Bool) (t : Node) : (Site.root t).isCandidate accepts = false := by
  simp [Site.isCandidate, Site.isAttributeValue, Site.isBranchOfValue, Site.parent?, Site.ancestors, Site.root,
    Site.alongTrail]

theorem not_taken_root (accepts : String → Bool) (r : Resolver) (t : Node) : taken accepts r (.root t) = false := by
  rw [taken_eq, not_candidate_root, Bool.false_and, Bool.false_and]

end Pass

/-! ## A whole pass -/

namespace Node

/-- The sites whose values a pass moves: those it takes that lie in no other that it takes, in reading order. -/
def accepted (t : Node) (accepts : String → Bool) (r : Resolver) : List Site :=
  t.sites.filter (Pass.outermost (Pass.taken accepts r))

theorem mem_accepted {t : Node} {accepts : String → Bool} {r : Resolver} {v : Site} :
    v ∈ t.accepted accepts r ↔
      v ∈ t.sites ∧ Pass.taken accepts r v = true ∧ ∀ a ∈ v.ancestors, Pass.taken accepts r a = false := by
  simp only [accepted, List.mem_filter, Pass.outermost, Bool.and_eq_true, List.all_eq_true, Bool.not_eq_true']

theorem statement_of_accepted {t : Node} {accepts : String → Bool} {r : Resolver} {v : Site}
    (h : v ∈ t.accepted accepts r) : ∃ c ∈ (Site.root t).children, v ∈ c.walk := by
  obtain ⟨hv, ht, _⟩ := mem_accepted.mp h
  rcases Site.mem_walk.mp hv with rfl | hc
  · rw [Pass.not_taken_root] at ht
    cases ht
  · exact hc

theorem constant_of_accepted {t : Node} {accepts : String → Bool} {r : Resolver} {v : Site}
    (h : v ∈ t.accepted accepts r) : (r.constant v).value = true := by
  have ht := (mem_accepted.mp h).2.1
  rw [Pass.taken_eq, Bool.and_eq_true] at ht
  exact ht.2

theorem inject_nil (n : Node) : n.inject [] = n := by
  rw [inject, List.map_nil, List.append_nil, eta]

theorem value_hoist (t : Node) (accepts : String → Bool) (r : Resolver) :
    (t.hoist accepts r).value =
      (Pass.replace (Pass.takes accepts r) [] t {}).value.1.inject
        (Pass.replace (Pass.takes accepts r) [] t {}).value.2.entries := by
  rw [hoist, Traced.value_bind]
  by_cases he : (Pass.replace (Pass.takes accepts r) [] t {}).value.2.entries = []
  · simp [he, inject_nil]
  · simp [he]

/-- A pass keeps the root, rewrites its children and appends a declaration for each accepted site. -/
theorem hoist_eq (t : Node) (accepts : String → Bool) (r : Resolver) :
    ∃ ns, Pass.RewrittenAll (Pass.taken accepts r) (Site.root t).children 0 ns (t.accepted accepts r) ∧
      (t.hoist accepts r).value = .mk t.head (ns ++ declarationsOf ((t.accepted accepts r).map Site.node)) := by
  obtain ⟨vs, hr, he⟩ := Pass.replace_rewritten (Pass.takes accepts r) t [] {} rfl
  have hvs : vs = t.accepted accepts r := hr.sites_eq (fun _ h => by cases h)
  rw [value_hoist, he, Registry.entries_insertAll _ _ rfl]
  subst hvs
  obtain ⟨ns, hn, hc⟩ := hr.inv_kept (Pass.not_taken_root accepts r t)
  refine ⟨ns, hc, ?_⟩
  rw [hn]
  simp [inject, declarationsOf, declarationOf, Registry.size]

end Node

end AttrHoist
