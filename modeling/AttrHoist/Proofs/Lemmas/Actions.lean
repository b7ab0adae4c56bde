import AttrHoist.Proofs.Lemmas.Growth
import AttrHoist.Store.Session

/-!
# What a step of a session can do

`Session.Acts` lists it once: create nodes over nodes that variables lead to, change the head of such a node, or work
on the registry. What holds along every run is proved from these cases alone.
-/

namespace AttrHoist

/-- Whether a step is about the registry and not about nodes and variables only. -/
def Step.onRegistry : Step → Bool
  | .registry _ | .register _ | .drain => true
  | _ => false

namespace Session

/-- A node to which going down from a variable leads. -/
def Known (s : Session) (x : Nat) : Prop := ∃ p ∈ s.bindings, s.store.Reaches p.2 x

/-- The links of the store are sound, and variables and entries hold nodes that exist. -/
structure Sound (s : Session) : Prop where
  store : s.store.Sound
  bound : ∀ p ∈ s.bindings, p.2 < s.store.size
  registered : ∀ e ∈ s.registry.entries ++ s.drained, e.expression < s.store.size

/-- `s.Acts t s'`: the step `t` may lead from `s` to `s'`. -/
inductive Acts (s : Session) : Step → Session → Prop
  | build {t store bindings} (ht : t.onRegistry = false) (hg : s.store.Grows s.Known store)
      (hb : ∀ p ∈ bindings, s.Known p.2 ∨ s.store.size ≤ p.2 ∧ p.2 < store.size) :
      Acts s t { s with store, bindings }
  | change {t r f} (ht : t.onRegistry = false) (hr : s.Known r) : Acts s t { s with store := s.store.setHead r f }
  | restart {stem} : Acts s (.registry stem) { s with registry := { stem := stem.getD generatedStem } }
  | register {v r} (hr : s.ref? v = some r) : Acts s (.register v)
      { s with
        store := (s.store.clone r fun h => { h with leading := "" }).1
        registry := s.registry.add (s.store.clone r fun h => { h with leading := "" }).2 }
  | unregistered {v} (hr : s.ref? v = none) : Acts s (.register v) s
  | drain : Acts s .drain { s with registry := s.registry.clear, drained := s.registry.entries }

/-! ## Variables -/

section
variable {s : Session}

theorem Known.child {x c : Nat} (h : s.Known x) (hc : c ∈ (s.store.cell x).children) : s.Known c := by
  obtain ⟨p, hp, hx⟩ := h
  exact ⟨p, hp, hx.tail hc⟩

theorem Known.lt_size (hs : s.Sound) {x : Nat} (h : s.Known x) : x < s.store.size := by
  obtain ⟨p, hp, hx⟩ := h
  exact Nat.lt_of_le_of_lt (hx.le hs.store) (hs.bound p hp)

theorem known_of_mem {p : Variable × Nat} (h : p ∈ s.bindings) : s.Known p.2 := ⟨p, h, .refl⟩

theorem known_of_ref? {v : Variable} {r : Nat} (h : s.ref? v = some r) : s.Known r := by
  obtain ⟨front, back, hb, _⟩ := List.lookup_eq_some_iff.mp h
  exact known_of_mem (p := (v, r)) (by rw [hb]; exact List.mem_append_right _ List.mem_cons_self)

theorem known_of_refs {vs : List Variable} {rs : List Nat} (h : vs.mapM s.ref? = some rs) : ∀ r ∈ rs, s.Known r := by
  induction vs generalizing rs with
  | nil => cases h; exact fun r hr => by cases hr
  | cons v vs ih =>
      simp only [List.mapM_cons, Option.bind_eq_bind, Option.bind_eq_some_iff] at h
      obtain ⟨r, hr, rs', hrs, h⟩ := h
      cases h
      intro q hq
      rcases List.mem_cons.mp hq with rfl | hq
      · exact known_of_ref? hr
      · exact ih hrs q hq

theorem known_of_descendant? {r x : Nat} {path : List Nat} (hr : s.Known r)
    (h : s.store.descendant? r path = some x) : s.Known x := by
  induction path generalizing r with
  | nil => cases h; exact hr
  | cons i path ih =>
      obtain ⟨c, hc, h⟩ := Option.bind_eq_some_iff.mp h
      exact ih (hr.child (List.mem_of_getElem? hc)) h

theorem mem_assign {v : Variable} {r : Nat} {p : Variable × Nat} (h : p ∈ (s.assign v r).bindings) :
    p ∈ s.bindings ∨ p.2 = r := by
  simp only [assign] at h
  split at h
  · obtain ⟨q, hq, rfl⟩ := List.mem_map.mp h
    split
    · exact Or.inr rfl
    · exact Or.inl hq
  · rcases List.mem_append.mp h with h | h
    · exact Or.inl h
    · rw [List.mem_singleton.mp h]
      exact Or.inr rfl

/-! ## The cases -/

variable {t : Step}

theorem Acts.none (ht : t.onRegistry = false) : s.Acts t s :=
  .build ht .refl fun _ hp => Or.inl (known_of_mem hp)

theorem Acts.give (ht : t.onRegistry = false) (v : Variable) {made : Store × Nat}
    (hg : s.store.Grows s.Known made.1)
    (hr : s.Known made.2 ∨ s.store.size ≤ made.2 ∧ made.2 < made.1.size) : s.Acts t (s.give v made).1 := by
  refine .build ht hg fun p hp => ?_
  rcases mem_assign hp with hp | hp
  · exact Or.inl (known_of_mem hp)
  · rw [hp]
    exact hr

theorem Acts.give_made (ht : t.onRegistry = false) (v : Variable) {made : Store × Nat} {allowed : Nat → Prop}
    (h : s.store.Makes allowed made) (ha : ∀ c, allowed c → s.Known c) : s.Acts t (s.give v made).1 :=
  .give ht v (h.1.mono ha) (Or.inr h.2)

theorem Acts.assign? (ht : t.onRegistry = false) (v : Option Variable) {r : Nat} (hr : s.Known r) :
    s.Acts t (s.assign? v r) := by
  cases v with
  | none => exact .none ht
  | some v =>
      have hg : s.store.Grows s.Known (s.store, r).1 := .refl
      exact .give ht v hg (Or.inl hr)

/-- Declarations are new, and so are the copies of the children of a program that has been made. -/
theorem injectInto_cases (hs : s.Sound) {program : Nat} (hp : s.Known program) :
    s.injectInto program = (s.store, program) ∨ s.store.Makes s.Known (s.injectInto program) := by
  rw [injectInto]
  split
  · exact Or.inl rfl
  · obtain ⟨hg, hrefs⟩ := s.store.insertAll_makes (s.drained.map fun e => (s.readEntry e).declaration)
    have hlt : ∀ c ∈ (s.store.cell program).children ++
        (s.store.insertAll (s.drained.map fun e => (s.readEntry e).declaration)).2,
        c < (s.store.insertAll (s.drained.map fun e => (s.readEntry e).declaration)).1.size := by
      intro c hc
      rcases List.mem_append.mp hc with hc | hc
      · exact Nat.lt_of_lt_of_le ((hp.child hc).lt_size hs) hg.size_le
      · exact (hrefs c hc).2
    obtain ⟨hgw, hle, hlt⟩ := Store.withChildren_makes _ program _ hlt
    refine Or.inr ⟨(hg.mono fun _ hf => hf.elim).trans hgw fun c hc => ?_, Nat.le_trans hg.size_le hle, hlt⟩
    rcases List.mem_append.mp hc with hc | hc
    · exact Or.inl (hp.child hc)
    · exact Or.inr (hrefs c hc).1

theorem acts_of_step? (hs : s.Sound) {s' : Session} {reply : Reply} (h : s.step? t = some (s', reply)) :
    s.Acts t s' := by
  cases t with
  | node tree into =>
      cases h
      exact .give_made rfl into (s.store.insert_makes tree) fun _ hf => hf.elim
  | make head children into =>
      obtain ⟨refs, hrefs, h⟩ := Option.bind_eq_some_iff.mp h
      cases h
      have hk := known_of_refs hrefs
      exact .give_made rfl into (.of_create .refl (fun c hc => ⟨(hk c hc).lt_size hs, Or.inl (hk c hc)⟩) head)
        fun _ hc => hc
  | get of path into =>
      obtain ⟨r, hr, h⟩ := Option.bind_eq_some_iff.mp h
      obtain ⟨x, hx, h⟩ := Option.bind_eq_some_iff.mp h
      cases h
      exact .assign? rfl into (known_of_descendant? (known_of_ref? hr) hx)
  | child of field into =>
      obtain ⟨r, hr, h⟩ := Option.bind_eq_some_iff.mp h
      split at h
      · rename_i c hc
        cases h
        exact .assign? rfl into ((known_of_ref? hr).child (List.mem_filter.mp (List.mem_of_mem_head? hc)).1)
      · cases h
        exact .none rfl
  | withChildren of children into =>
      obtain ⟨r, hr, h⟩ := Option.bind_eq_some_iff.mp h
      obtain ⟨refs, hrefs, h⟩ := Option.bind_eq_some_iff.mp h
      cases h
      have hk := known_of_refs hrefs
      exact .give_made rfl into (Store.withChildren_makes _ r refs fun c hc => (hk c hc).lt_size hs) hk
  | clone of changes into =>
      obtain ⟨r, hr, h⟩ := Option.bind_eq_some_iff.mp h
      cases h
      exact .give_made rfl into (s.store.clone_makes r _) fun _ hf => hf.elim
  | change of change =>
      obtain ⟨r, hr, h⟩ := Option.bind_eq_some_iff.mp h
      cases h
      exact .change rfl (known_of_ref? hr)
  | registry stem =>
      cases h
      cases stem with
      | none => exact .restart
      | some stem => exact .restart
  | register of =>
      obtain ⟨r, hr, h⟩ := Option.bind_eq_some_iff.mp h
      cases h
      exact .register hr
  | drain => cases h; exact .drain
  | declaration entry into =>
      obtain ⟨e, he, h⟩ := Option.bind_eq_some_iff.mp h
      cases h
      exact .give_made rfl into (s.store.insert_makes _) fun _ hf => hf.elim
  | inject of into =>
      obtain ⟨r, hr, h⟩ := Option.bind_eq_some_iff.mp h
      cases h
      have hk := known_of_ref? hr
      rcases injectInto_cases hs hk with hsame | hmade
      · rw [hsame]
        exact .give rfl into .refl (Or.inl hk)
      · exact .give_made rfl into hmade fun _ hc => hc
  | entries => cases h; exact .none rfl
  | parent of =>
      obtain ⟨r, hr, h⟩ := Option.bind_eq_some_iff.mp h
      split at h <;> cases h <;> exact .none rfl
  | same a b =>
      obtain ⟨r, hr, h⟩ := Option.bind_eq_some_iff.mp h
      obtain ⟨q, hq, h⟩ := Option.bind_eq_some_iff.mp h
      cases h
      exact .none rfl
  | childrenIn | namedChildren | ancestors | walk | isLeaf | dump | render | sourceText =>
      obtain ⟨r, hr, h⟩ := Option.bind_eq_some_iff.mp h
      cases h
      exact .none rfl

theorem step_acts (hs : s.Sound) (t : Step) : s.Acts t (s.step t).1 := by
  rw [step]
  cases h : s.step? t with
  | some made =>
      obtain ⟨s', reply⟩ := made
      exact acts_of_step? hs h
  | none =>
      -- nothing changes; a registration is a case of its own, since it is counted when it succeeds
      cases t with
      | register v =>
          refine .unregistered ?_
          cases hr : s.ref? v with
          | none => rfl
          | some r => simp [step?, hr] at h
      | registry => cases h
      | drain => cases h
      | _ => exact .none rfl

end

/-! ## Soundness -/

theorem sound_empty : ({} : Session).Sound where
  store := Store.sound_empty
  bound p hp := by cases hp
  registered e he := by cases he

theorem Acts.sound {s s' : Session} {t : Step} (h : s.Acts t s') (hs : s.Sound) : s'.Sound := by
  cases h with
  | build _ hg hb =>
      refine ⟨hg.sound hs.store, fun p hp => ?_, fun e he => Nat.lt_of_lt_of_le (hs.registered e he) hg.size_le⟩
      rcases hb p hp with hk | ⟨_, hlt⟩
      · exact Nat.lt_of_lt_of_le (hk.lt_size hs) hg.size_le
      · exact hlt
  | change _ _ =>
      exact ⟨hs.store.setHead _ _, fun p hp => (Store.size_setHead ..).symm ▸ hs.bound p hp,
        fun e he => (Store.size_setHead ..).symm ▸ hs.registered e he⟩
  | restart => exact ⟨hs.store, hs.bound, fun e he => hs.registered e (List.mem_append_right _ he)⟩
  | @register v r hr =>
      obtain ⟨hg, hle, hlt⟩ := s.store.clone_makes r fun h => { h with leading := "" }
      refine ⟨hg.sound hs.store, fun p hp => Nat.lt_of_lt_of_le (hs.bound p hp) hg.size_le, fun e he => ?_⟩
      simp only [Registry.add, List.append_assoc, List.mem_append, List.mem_singleton] at he
      rcases he with he | rfl | he
      · exact Nat.lt_of_lt_of_le (hs.registered e (List.mem_append_left _ he)) hg.size_le
      · exact hlt
      · exact Nat.lt_of_lt_of_le (hs.registered e (List.mem_append_right _ he)) hg.size_le
  | unregistered _ => exact hs
  | drain => exact ⟨hs.store, hs.bound, fun e he => hs.registered e (List.mem_append_left _ he)⟩

theorem step_sound {s : Session} (hs : s.Sound) (t : Step) : (s.step t).1.Sound :=
  (step_acts hs t).sound hs

theorem run_sound {s : Session} (hs : s.Sound) (ts : List Step) : (s.run ts).1.Sound := by
  induction ts generalizing s with
  | nil => exact hs
  | cons t ts ih => exact ih (step_sound hs t)

end Session

end AttrHoist
