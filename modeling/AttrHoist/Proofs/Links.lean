import AttrHoist.Proofs.Lemmas.Actions
import AttrHoist.Proofs.Lemmas.Pieces
import AttrHoist.Proofs.Lemmas.Traversal
import Mathlib.Data.List.Forall2

/-!
# Links of shared nodes

After every run of steps, children are older than the nodes that have them and parents are the nodes that took a child
last. So every way down and every way up ends. That is stated with rules for traversals that follow all links, whatever
they find there: a traversal ends exactly where the rules give it a result, and no two rules are about the same case.
-/

namespace AttrHoist

theorem forall₂_iff_eq_map {α β : Type} {R : α → β → Prop} {f : α → β} {as : List α}
    (h : ∀ a ∈ as, ∀ b, R a b ↔ b = f a) (bs : List β) : List.Forall₂ R as bs ↔ bs = as.map f := by
  induction as generalizing bs with
  | nil => exact List.forall₂_nil_left_iff
  | cons a as ih =>
      rw [List.forall₂_cons_left_iff, List.map_cons]
      constructor
      · rintro ⟨b, bs', hb, hbs, rfl⟩
        rw [(h a List.mem_cons_self b).mp hb, (ih (fun a' ha => h a' (List.mem_cons_of_mem a ha)) bs').mp hbs]
      · rintro rfl
        exact ⟨f a, as.map f, (h a List.mem_cons_self _).mpr rfl,
          (ih (fun a' ha => h a' (List.mem_cons_of_mem a ha)) _).mpr rfl, rfl⟩

namespace Store

/-! ## Traversals that may not end -/

/-- `s.Walks pending refs`: working through `pending` from the front, going below all of them, meets `refs` and ends. -/
inductive Walks (s : Store) : List Nat → List Nat → Prop
  | done : s.Walks [] []
  | meet {r rest refs} (h : s.Walks ((s.cell r).children ++ rest) refs) : s.Walks (r :: rest) (r :: refs)

/-- `s.Prints r text`: printing `r` after its children ends with `text`. -/
inductive Prints (s : Store) : Nat → String → Prop
  | node {r texts} (h : List.Forall₂ s.Prints (s.cell r).children texts) :
      s.Prints r ((s.cell r).head.leading ++ (if texts.isEmpty then (s.cell r).head.text else String.join texts) ++
        (s.cell r).head.trailing)

mutual
/-- `s.Copies r f made`: copying `r` after its children ends with `made`, a store and the copy in it. -/
inductive Copies : Store → Nat → (Head → Head) → Store × Nat → Prop
  | node {s t : Store} {r f copies} (h : s.CopiesAll (s.cell r).children (t, copies)) :
      s.Copies r f (t.create (f (s.cell r).head) copies, t.size)

/-- `s.CopiesAll refs made`: copying `refs` one after the other ends with `made`, a store and the copies in it. -/
inductive CopiesAll : Store → List Nat → Store × List Nat → Prop
  | nil {s} : CopiesAll s [] (s, [])
  | cons {s t u : Store} {r rest copy copies} (h : s.Copies r id (t, copy)) (hs : t.CopiesAll rest (u, copies)) :
      s.CopiesAll (r :: rest) (u, copy :: copies)
end

/-- `s.Climbs r refs`: going from `r` to its parent, the parent of that and so on meets `refs` and ends. -/
inductive Climbs (s : Store) : Nat → List Nat → Prop
  | top {r} (h : (s.cell r).parent = none) : s.Climbs r []
  | up {r p refs} (h : (s.cell r).parent = some p) (hp : s.Climbs p refs) : s.Climbs r (p :: refs)

/-! ## They end -/

variable {s : Store}

theorem walks_nil {refs : List Nat} : s.Walks [] refs ↔ refs = [] := by
  constructor
  · rintro ⟨⟩
    rfl
  · rintro rfl
    exact .done

theorem walks_cons {r : Nat} {rest refs : List Nat} :
    s.Walks (r :: rest) refs ↔ ∃ more, refs = r :: more ∧ s.Walks ((s.cell r).children ++ rest) more := by
  constructor
  · rintro (_ | h)
    exact ⟨_, rfl, h⟩
  · rintro ⟨more, rfl, h⟩
    exact .meet h

/-- `s.Meets cs refs`: a walk that comes to `cs` meets `refs` before it goes on to what else is pending. -/
def Meets (s : Store) (cs refs : List Nat) : Prop :=
  ∀ rest all, s.Walks (cs ++ rest) all ↔ ∃ more, all = refs ++ more ∧ s.Walks rest more

theorem Meets.append {cs ds refs more : List Nat} (h : s.Meets cs refs) (h' : s.Meets ds more) :
    s.Meets (cs ++ ds) (refs ++ more) := by
  intro rest all
  rw [List.append_assoc, h]
  constructor
  · rintro ⟨_, rfl, hd⟩
    obtain ⟨last, rfl, hr⟩ := (h' rest _).mp hd
    exact ⟨last, (List.append_assoc ..).symm, hr⟩
  · rintro ⟨last, rfl, hr⟩
    exact ⟨more ++ last, List.append_assoc .., (h' rest _).mpr ⟨last, rfl, hr⟩⟩

theorem meets_all {n : Nat} (ih : ∀ c < n, ∃ refs, refs.map s.read = (s.read c).walk ∧ s.Meets [c] refs)
    (cs : List Nat) (hcs : ∀ c ∈ cs, c < n) :
    ∃ refs, refs.map s.read = (cs.map s.read).flatMap Node.walk ∧ s.Meets cs refs := by
  induction cs with
  | nil => exact ⟨[], rfl, fun rest all => by simp⟩
  | cons c cs ihs =>
      obtain ⟨refs, hrefs, hmeets⟩ := ih c (hcs c List.mem_cons_self)
      obtain ⟨more, hmore, hmeets'⟩ := ihs fun d hd => hcs d (List.mem_cons_of_mem c hd)
      refine ⟨refs ++ more, ?_, hmeets.append hmeets'⟩
      rw [List.map_append, hrefs, hmore, List.map_cons, List.flatMap_cons]

theorem meets_node (hs : s.Sound) (r : Nat) : ∃ refs, refs.map s.read = (s.read r).walk ∧ s.Meets [r] refs := by
  induction r using Nat.strongRecOn with
  | _ r ih =>
      obtain ⟨refs, hrefs, hmeets⟩ := meets_all ih (s.cell r).children (hs.older r)
      refine ⟨r :: refs, ?_, fun rest all => ?_⟩
      · rw [List.map_cons, hrefs, Node.walk_eq, read_eq hs, Node.children_mk]
      · rw [List.singleton_append, walks_cons]
        constructor
        · rintro ⟨_, rfl, h⟩
          obtain ⟨more, rfl, hr⟩ := (hmeets rest _).mp h
          exact ⟨more, rfl, hr⟩
        · rintro ⟨more, rfl, hr⟩
          exact ⟨refs ++ more, rfl, (hmeets rest _).mpr ⟨more, rfl, hr⟩⟩

theorem walks_iff (hs : s.Sound) (r : Nat) :
    ∃ refs, (∀ all, s.Walks [r] all ↔ all = refs) ∧ refs.map s.read = (s.read r).walk := by
  obtain ⟨refs, hrefs, hmeets⟩ := meets_node hs r
  refine ⟨refs, fun all => (hmeets [] all).trans ?_, hrefs⟩
  simp only [walks_nil, exists_eq_right, List.append_nil]

theorem prints_iff (hs : s.Sound) (r : Nat) (text : String) : s.Prints r text ↔ text = (s.read r).render := by
  induction r using Nat.strongRecOn generalizing text with
  | _ r ih =>
      have htexts := forall₂_iff_eq_map fun c hc => ih c (hs.older r c hc)
      have hrender : (s.read r).render = (s.cell r).head.leading ++
          (if ((s.cell r).children.map fun c => (s.read c).render).isEmpty then (s.cell r).head.text
            else String.join ((s.cell r).children.map fun c => (s.read c).render)) ++ (s.cell r).head.trailing := by
        rw [read_eq hs, Node.render_mk, Node.renderAll_eq_join, List.map_map, Node.closing]
        cases (s.cell r).children with
        | nil => simp [String.append_assoc]
        | cons c cs => simp [String.append_assoc, Function.comp_def]
      rw [hrender]
      constructor
      · rintro ⟨h⟩
        rw [(htexts _).mp h]
      · rintro rfl
        exact .node ((htexts _).mpr rfl)

theorem copiesAll_cons {r : Nat} {rest : List Nat} {made : Store × List Nat} :
    s.CopiesAll (r :: rest) made ↔ ∃ one more, s.Copies r id one ∧ one.1.CopiesAll rest more ∧
      made = (more.1, one.2 :: more.2) := by
  constructor
  · rintro (_ | ⟨h, hs⟩)
    exact ⟨_, _, h, hs, rfl⟩
  · rintro ⟨one, more, h, hs, rfl⟩
    exact .cons h hs

theorem copiesAll_iff {n : Nat}
    (ih : ∀ c < n, ∀ t : Store, t.Sound → ∀ f made, t.Copies c f made ↔ made = t.clone c f)
    (hs : s.Sound) (cs : List Nat) (hcs : ∀ c ∈ cs, c < n ∧ c < s.size) (made : Store × List Nat) :
    s.CopiesAll cs made ↔ made = s.insertAll (cs.map s.read) := by
  induction cs generalizing s made with
  | nil =>
      constructor
      · rintro ⟨⟩
        rfl
      · rintro rfl
        exact .nil
  | cons c cs ihs =>
      obtain ⟨hg, _, _⟩ := s.clone_makes c id
      have hrest : ∀ d ∈ cs, d < n ∧ d < s.size := fun d hd => hcs d (List.mem_cons_of_mem c hd)
      have hread : cs.map (s.clone c id).1.read = cs.map s.read :=
        List.map_congr_left fun d hd => hg.read_eq hs (hrest d hd).2
      have hid : (s.read c).mapHead id = s.read c := by cases s.read c; rfl
      -- the rest is copied in the store that has the first copy, where it reads as before
      have hcopies := ihs (hg.sound hs) fun d hd => ⟨(hrest d hd).1, Nat.lt_of_lt_of_le (hrest d hd).2 hg.size_le⟩
      rw [hread] at hcopies
      simp only [copiesAll_cons, ih c (hcs c List.mem_cons_self).1 s hs id, exists_and_left, exists_eq_left, hcopies]
      rw [List.map_cons, insertAll_cons, clone, hid]

theorem copies_iff (hs : s.Sound) (r : Nat) (f : Head → Head) (made : Store × Nat) :
    s.Copies r f made ↔ made = s.clone r f := by
  induction r using Nat.strongRecOn generalizing s f made with
  | _ r ih =>
      have hall := copiesAll_iff (fun c hc t ht f made => ih c hc ht f made) hs (s.cell r).children
        fun c hc => ⟨hs.older r c hc, Nat.lt_trans (hs.older r c hc) (lt_size_of_child hc)⟩
      rw [clone, read_eq hs, Node.mapHead, insert_mk]
      constructor
      · rintro ⟨h⟩
        rw [← (hall _).mp h]
      · rintro rfl
        exact .node ((hall _).mpr rfl)

theorem climbs_iff (hs : s.Sound) (r : Nat) (refs : List Nat) : s.Climbs r refs ↔ refs = s.ancestors r := by
  rw [ancestors]
  cases hp : (s.cell r).parent with
  | none =>
      constructor
      · rintro (_ | ⟨h, _⟩)
        · rfl
        · rw [hp] at h
          cases h
      · rintro rfl
        exact .top hp
  | some p =>
      have hchild := ((hs.parent r p).mp hp).1
      have hlt : r < p ∧ p < s.size := ⟨hs.older p r hchild, lt_size_of_child hchild⟩
      simp only [if_pos hlt]
      constructor
      · rintro (h | ⟨h, hup⟩)
        · rw [hp] at h
          cases h
        · rw [hp] at h
          cases h
          rw [(climbs_iff hs p _).mp hup]
      · rintro rfl
        exact .up hp ((climbs_iff hs p _).mpr rfl)
termination_by s.size - r

theorem not_reaches_self (hs : s.Sound) (r : Nat) : ¬ Relation.TransGen (fun r c => c ∈ (s.cell r).children) r r := by
  intro h
  obtain ⟨c, hrc, hc⟩ := Relation.TransGen.tail'_iff.mp h
  exact absurd (Reaches.le hs hrc) (Nat.not_le.mpr (hs.older c r hc))

end Store

/-- After every run of steps, the children of a node were created before it, so that no node lies below itself; the
parent of a node is the node created last among those that have it as a child, and there is none just when no node has
it. Walking, printing, copying and climbing end from every node, with the results that steps answer with and no
others. -/
theorem Session.links_sound (steps : List Step) :
    let s := (({} : Session).run steps).1.store
    (∀ r, ∀ c ∈ (s.cell r).children, c < r) ∧
      (∀ r, ¬ Relation.TransGen (fun r c => c ∈ (s.cell r).children) r r) ∧
      (∀ r p, (s.cell r).parent = some p ↔ s.LastHolder r p) ∧
      (∀ r, (s.cell r).parent = none ↔ ∀ p, r ∉ (s.cell p).children) ∧
      ∀ r, (∃ refs, (∀ all, s.Walks [r] all ↔ all = refs) ∧ refs.map s.read = (s.read r).walk) ∧
          (∀ text, s.Prints r text ↔ text = (s.read r).render) ∧
          (∀ f made, s.Copies r f made ↔ made = s.clone r f) ∧ ∀ refs, s.Climbs r refs ↔ refs = s.ancestors r := by
  intro s
  have hs : s.Sound := (Session.run_sound Session.sound_empty steps).store
  refine ⟨hs.older, Store.not_reaches_self hs, hs.parent, hs.orphan, fun r => ?_⟩
  exact ⟨Store.walks_iff hs r, Store.prints_iff hs r, Store.copies_iff hs r, Store.climbs_iff hs r⟩

end AttrHoist
