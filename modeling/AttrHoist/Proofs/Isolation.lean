import AttrHoist.Proofs.Lemmas.Actions
import AttrHoist.Proofs.Lemmas.Numbering
import Mathlib.Data.List.Induction

/-!
# Registered expressions

An entry of a registry holds a copy in the store, where every variable could in principle lead to it. No variable ever
does, so an entry stays what its expression was when it was registered. What that was is written down in a ledger of
trees, which nothing can change.
-/

namespace AttrHoist

/-! ## Reading registries -/

namespace Registry
variable {α β : Type}

/-- The registry with its expressions in another form. -/
def map (f : α → β) (r : Registry α) : Registry β := ⟨r.stem, r.entries.map (Entry.map f)⟩

theorem map_add (f : α → β) (r : Registry α) (a : α) : (r.add a).map f = (r.map f).add (f a) := by
  simp [map, add, Entry.map, nextName, size]

theorem map_congr {f g : α → β} {r : Registry α} (h : ∀ e ∈ r.entries, f e.expression = g e.expression) :
    r.map f = r.map g := by
  rw [map, map]
  congr 1
  exact List.map_congr_left fun e he => by rw [Entry.map, Entry.map, h e he]

end Registry

/-! ## The ledger -/

/-- A registry and what was last drained from it, as trees. -/
structure Ledger where
  registry : Registry := {}
  drained : List Entry := []

/-- Writes down what a step does to the registry of a session, with the tree that its argument is at this moment. -/
def Ledger.note (l : Ledger) (s : Session) : Step → Ledger
  | .registry stem => { l with registry := { stem := stem.getD generatedStem } }
  | .register v =>
    match s.ref? v with
    | some r => { l with registry := l.registry.insert (s.store.read r) }
    | none => l
  | .drain => { registry := l.registry.clear, drained := l.registry.entries }
  | _ => l

/-- Each of consecutive steps with the session in which it is taken. -/
def Session.moments (s : Session) : List Step → List (Session × Step)
  | [] => []
  | t :: ts => (s, t) :: (s.step t).1.moments ts

/-- What has been written down after all of some moments. -/
def Ledger.noteAll (l : Ledger) (moments : List (Session × Step)) : Ledger :=
  moments.foldl (fun l m => l.note m.1 m.2) l

theorem Ledger.note_eq (l : Ledger) (s : Session) {t : Step} (h : t.onRegistry = false) : l.note s t = l := by
  cases t with
  | registry | register | drain => cases h
  | _ => rfl

/-! ## Isolation -/

namespace Session

/-- A node to which going down from an entry leads, in the registry or among those last drained. -/
def Held (s : Session) (x : Nat) : Prop :=
  ∃ e ∈ s.registry.entries ++ s.drained, s.store.Reaches e.expression x

/-- No variable leads to a node of an entry. -/
def Isolated (s : Session) : Prop := ∀ x, s.Known x → ¬ s.Held x

section
variable {s s' : Session} {t : Step}

theorem Held.child {x c : Nat} (h : s.Held x) (hc : c ∈ (s.store.cell x).children) : s.Held c := by
  obtain ⟨e, he, hx⟩ := h
  exact ⟨e, he, hx.tail hc⟩

theorem Held.lt_size (hs : s.Sound) {x : Nat} (h : s.Held x) : x < s.store.size := by
  obtain ⟨e, he, hx⟩ := h
  exact Nat.lt_of_le_of_lt (hx.le hs.store) (hs.registered e he)

theorem held_of_mem {e : Entry Nat} (h : e ∈ s.registry.entries ++ s.drained) : s.Held e.expression := ⟨e, h, .refl⟩

section
variable {store : Store} {allowed : Nat → Prop} (hg : s.store.Grows allowed store) (hs : s.Sound)
include hg hs

theorem held_of_grows {x : Nat} (h : ({ s with store } : Session).Held x) : s.Held x := by
  obtain ⟨e, he, hx⟩ := h
  exact ⟨e, he, (hg.reaches_of_old hs.store (hs.registered e he) hx).1⟩

theorem known_of_grows {x : Nat} (h : ({ s with store } : Session).Known x) : s.Known x := by
  obtain ⟨p, hp, hx⟩ := h
  exact ⟨p, hp, (hg.reaches_of_old hs.store (hs.bound p hp) hx).1⟩

end

theorem known_of_build {store : Store} {bindings : List (Variable × Nat)} (hs : s.Sound)
    (hg : s.store.Grows s.Known store)
    (hb : ∀ p ∈ bindings, s.Known p.2 ∨ s.store.size ≤ p.2 ∧ p.2 < store.size) {x : Nat}
    (h : ({ s with store, bindings } : Session).Known x) : s.Known x ∨ s.store.size ≤ x := by
  obtain ⟨p, hp, hx⟩ := h
  rcases hb p hp with hk | ⟨hnew, _⟩
  · obtain ⟨q, hq, hpq⟩ := hk
    have hlt := Known.lt_size hs ⟨q, hq, hpq⟩
    exact Or.inl ⟨q, hq, hpq.trans (hg.reaches_of_old hs.store hlt hx).1⟩
  · exact hg.reaches_of_new (fun _ _ hk hc => hk.child hc) hnew hx

theorem Acts.isolated (h : s.Acts t s') (hs : s.Sound) (hi : s.Isolated) : s'.Isolated := by
  intro x hk hh
  cases h with
  | build _ hg hb =>
      have hh := held_of_grows hg hs hh
      rcases known_of_build hs hg hb hk with hk | hnew
      · exact hi x hk hh
      · exact absurd (hh.lt_size hs) (Nat.not_lt.mpr hnew)
  | change _ _ =>
      simp only [Known, Store.reaches_setHead] at hk
      simp only [Held, Store.reaches_setHead] at hh
      exact hi x hk hh
  | restart =>
      obtain ⟨e, he, hx⟩ := hh
      exact hi x hk ⟨e, List.mem_append_right _ he, hx⟩
  | @register v r _ =>
      obtain ⟨hg, hnew, _⟩ := s.store.clone_makes r fun h => { h with leading := "" }
      have hk : s.Known x := known_of_grows hg hs hk
      obtain ⟨e, he, hx⟩ := hh
      simp only [Registry.add, List.append_assoc, List.mem_append, List.mem_singleton] at he
      rcases he with he | rfl | he
      · exact hi x hk (held_of_grows hg hs ⟨e, List.mem_append_left _ he, hx⟩)
      · -- below the copy everything is new, and no variable knows it
        rcases hg.reaches_of_new (fun _ _ hf _ => hf) hnew hx with hf | hge
        · exact hf
        · exact absurd (hk.lt_size hs) (Nat.not_lt.mpr hge)
      · exact hi x hk (held_of_grows hg hs ⟨e, List.mem_append_right _ he, hx⟩)
  | unregistered _ => exact hi x hk hh
  | drain =>
      obtain ⟨e, he, hx⟩ := hh
      exact hi x hk ⟨e, List.mem_append_left _ he, hx⟩

/-- No step changes a tree that an entry leads to. -/
theorem Acts.read_held (h : s.Acts t s') (hs : s.Sound) (hi : s.Isolated) {x : Nat} (hx : s.Held x) :
    s'.store.read x = s.store.read x := by
  cases h with
  | build _ hg _ => exact hg.read_eq hs.store (hx.lt_size hs)
  | @change _ r f _ hr =>
      refine Store.read_congr hs.store (hs.store.setHead r f) (p := s.Held) (fun q hq => ?_) hx
      have hne : q ≠ r := by
        rintro rfl
        exact hi q hr hq
      exact ⟨by rw [Store.cell_setHead_of_ne _ r f hne], Store.children_setHead _ r f q, fun c hc => hq.child hc⟩
  | @register v r _ => exact (s.store.clone_makes r _).1.read_eq hs.store (hx.lt_size hs)
  | restart => rfl
  | unregistered _ => rfl
  | drain => rfl

/-- The registry and the drained entries are those of the ledger. -/
structure Follows (s : Session) (l : Ledger) : Prop where
  registry : s.registry.map s.store.read = l.registry
  drained : s.drained.map s.readEntry = l.drained

theorem Acts.follows (h : s.Acts t s') (hs : s.Sound) (hi : s.Isolated) {l : Ledger} (hl : s.Follows l) :
    s'.Follows (l.note s t) := by
  have hread : ∀ e ∈ s.registry.entries ++ s.drained, s'.store.read e.expression = s.store.read e.expression :=
    fun e he => h.read_held hs hi (held_of_mem he)
  have hregistry : s.registry.map s'.store.read = l.registry := by
    rw [← hl.registry]
    exact Registry.map_congr fun e he => hread e (List.mem_append_left _ he)
  have hdrained : s.drained.map s'.readEntry = l.drained := by
    rw [← hl.drained]
    refine List.map_congr_left fun e he => ?_
    rw [readEntry, readEntry, Entry.map, Entry.map, hread e (List.mem_append_right _ he)]
  cases h with
  | build ht _ _ => rw [l.note_eq s ht]; exact ⟨hregistry, hdrained⟩
  | change ht _ => rw [l.note_eq s ht]; exact ⟨hregistry, hdrained⟩
  | restart => exact ⟨rfl, hdrained⟩
  | @register v r hr =>
      rw [Ledger.note, hr]
      refine ⟨?_, hdrained⟩
      rw [Registry.map_add, Store.read_clone hs.store, hregistry]
      rfl
  | unregistered hr => rw [Ledger.note, hr]; exact hl
  | drain => exact ⟨congrArg Registry.clear hl.registry, congrArg (fun r => r.entries) hl.registry⟩

theorem Acts.dense (h : s.Acts t s') (hd : s.registry.Dense) : s'.registry.Dense := by
  cases h with
  | build _ _ _ => exact hd
  | change _ _ => exact hd
  | restart => exact Registry.dense_empty _
  | register _ => exact hd.add _
  | unregistered _ => exact hd
  | drain => exact Registry.dense_empty _

end

theorem run_follows {s : Session} {l : Ledger} (hs : s.Sound) (hi : s.Isolated) (hd : s.registry.Dense)
    (hl : s.Follows l) (ts : List Step) :
    (s.run ts).1.Isolated ∧ (s.run ts).1.registry.Dense ∧ (s.run ts).1.Follows (l.noteAll (s.moments ts)) := by
  induction ts generalizing s l with
  | nil => exact ⟨hi, hd, hl⟩
  | cons t ts ih =>
      have h := step_acts hs t
      exact ih (h.sound hs) (h.isolated hs hi) (h.dense hd) (h.follows hs hi hl)

end Session

/-! ## Counting -/

/-- Whether a step leaves a registry without entries. -/
def Step.restarts : Step → Bool
  | .registry _ | .drain => true
  | _ => false

namespace Session

/-- Whether a step registers an expression; it does if its variable is in use. -/
def registers (s : Session) : Step → Bool
  | .register v => (s.ref? v).isSome
  | _ => false

theorem Acts.size_registry {s s' : Session} {t : Step} (h : s.Acts t s') :
    s'.registry.size = if t.restarts then 0 else s.registry.size + if s.registers t then 1 else 0 := by
  cases h with
  | build ht _ _ | change ht _ =>
      cases t with
      | registry | register | drain => cases ht
      | _ => rfl
  | restart => rfl
  | register hr => simp [Step.restarts, registers, hr, Registry.add, Registry.size]
  | unregistered hr => simp [Step.restarts, registers, hr]
  | drain => rfl

end Session

/-- How many expressions were registered since a registry was created or drained for the last time. -/
def registeredSince (moments : List (Session × Step)) : Nat :=
  (moments.reverse.takeWhile fun m => !m.2.restarts).countP fun m => m.1.registers m.2

theorem registeredSince_concat (moments : List (Session × Step)) (s : Session) (t : Step) :
    registeredSince (moments ++ [(s, t)]) =
      if t.restarts then 0 else registeredSince moments + if s.registers t then 1 else 0 := by
  rw [registeredSince, List.reverse_append, List.reverse_singleton, List.singleton_append, List.takeWhile_cons]
  cases t.restarts with
  | true => rfl
  | false => exact List.countP_cons

namespace Session

theorem run_concat (s : Session) (ts : List Step) (t : Step) : (s.run (ts ++ [t])).1 = ((s.run ts).1.step t).1 := by
  induction ts generalizing s with
  | nil => rfl
  | cons u ts ih => exact ih (s.step u).1

theorem moments_concat (s : Session) (ts : List Step) (t : Step) :
    s.moments (ts ++ [t]) = s.moments ts ++ [((s.run ts).1, t)] := by
  induction ts generalizing s with
  | nil => rfl
  | cons u ts ih => exact congrArg ((s, u) :: ·) (ih (s.step u).1)

theorem size_registry_run (steps : List Step) :
    (({} : Session).run steps).1.registry.size = registeredSince (({} : Session).moments steps) := by
  induction steps using List.reverseRecOn with
  | nil => rfl
  | append_singleton ts t ih =>
      rw [run_concat, moments_concat, registeredSince_concat, ← ih]
      exact (step_acts (run_sound sound_empty ts) t).size_registry

/-- After every run of steps, the registry holds as many entries as expressions were registered since it was created or
drained; they are numbered and named by their positions, so that no two names are alike. The entries, also those last
drained, are what a ledger of unchanging trees says, which notes each expression as it is when it is registered,
without the text in front. No variable leads to a node of an entry. -/
theorem registered_isolated (steps : List Step) :
    let s := (({} : Session).run steps).1
    let moments := ({} : Session).moments steps
    s.registry.size = registeredSince moments ∧ s.registry.Dense ∧ (s.registry.entries.map Entry.name).Nodup ∧
      s.registry.map s.store.read = (({} : Ledger).noteAll moments).registry ∧
      s.drained.map s.readEntry = (({} : Ledger).noteAll moments).drained ∧
      ∀ x, s.Known x → ¬ s.Held x := by
  intro s moments
  have hisolated : ({} : Session).Isolated := fun x ⟨p, hp, _⟩ => by cases hp
  have hfollows : ({} : Session).Follows {} := ⟨rfl, rfl⟩
  obtain ⟨hi, hd, hl⟩ := run_follows sound_empty hisolated (Registry.dense_empty _) hfollows steps
  exact ⟨size_registry_run steps, hd, hd.nodup_names, hl.registry, hl.drained, hi⟩

end Session

end AttrHoist
