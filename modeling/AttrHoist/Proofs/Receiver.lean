import AttrHoist.Proofs.Exemption

/-!
# Receivers taken from outside

An arrow function has no receiver of its own. If it uses one, it must stay in the function that gives it. The search for
such uses does not enter other functions, whose parameters and bodies see their own receiver. But the name of a method
may be computed, and that happens outside the method: a receiver used there goes unnoticed.
-/

namespace AttrHoist

/-! ## Searches that do not enter some sites -/

namespace Site

/-- A search meets what lies below the start and not below a site that it does not enter. -/
theorem mem_visit {enter : Site → Bool} {s m : Site} :
    m ∈ visit enter [s] ↔ m ∈ s.walk ∧ ∀ a ∈ m.ancestors, a ∈ s.walk → enter a = true := by
  induction s using induction_on with
  | step s ih =>
      rw [visit_singleton, List.mem_cons]
      constructor
      · rintro (rfl | h)
        · refine ⟨self_mem_walk m, fun a ha hw => ?_⟩
          have hlt := length_lt_of_ancestor ha
          have hle := length_le_of_mem_walk hw
          omega
        · split at h
          · next he =>
              rw [visit_eq_flatMap] at h
              obtain ⟨c, hc, hm⟩ := List.mem_flatMap.mp h
              obtain ⟨hw, hall⟩ := (ih c hc).mp hm
              refine ⟨mem_walk_of_child hc hw, fun a ha haw => ?_⟩
              by_cases has : a = s
              · exact has ▸ he
              · exact hall a ha (mem_walk_of_between hc hw ha haw has)
          · cases h
      · rintro ⟨hw, hall⟩
        rcases mem_walk.mp hw with rfl | ⟨c, hc, hm⟩
        · exact Or.inl rfl
        · have he : enter s = true := hall s (mem_ancestors_of_below hc hm) (self_mem_walk s)
          rw [if_pos he, visit_eq_flatMap]
          refine Or.inr (List.mem_flatMap.mpr ⟨c, hc, (ih c hc).mpr ⟨hm, fun a ha haw => ?_⟩⟩)
          exact hall a ha (mem_walk_of_child hc haw)

/-! ## Receivers -/

/-- A function with a receiver of its own: any but an arrow function. -/
def ownsReceiver (g : Site) : Bool := g.node.isFunction && g.kind != Kind.arrow

/-- Whether a part of a function is evaluated when the function is called. -/
def isCalledPart (c : Site) : Bool := c.node.field ∈ [some "parameters", some "parameter", some "body"]

/-- `m` uses the receiver around `f`: it lies in `f`, and in the parameters or the body of no function in `f` that has a
receiver of its own. -/
structure TakesReceiver (f m : Site) : Prop where
  receiver : m.node.isReceiver = true
  inside : m ∈ f.walk
  ne : m ≠ f
  outer : ∀ g ∈ f.walk, g ≠ f → g.ownsReceiver = true → ∀ c ∈ g.children, c.isCalledPart = true → m ∉ c.walk

/-- `m` lies in some part of a function in `f` that has a receiver of its own. -/
def Unentered (f m : Site) : Prop := ∃ g ∈ m.ancestors, g ∈ f.walk ∧ g ≠ f ∧ g.ownsReceiver = true

variable {f m : Site}

theorem readsReceiver_iff_mem_visit :
    f.node.readsReceiver = true ↔ ∃ c ∈ f.children, ∃ m ∈ c.walk, m.node.isReceiver = true ∧
      ∀ g ∈ m.ancestors, g ∈ c.walk → g.ownsReceiver = false := by
  have henter : ∀ g : Site, (!g.node.isFunction || g.node.kind == Kind.arrow) = true ↔ g.ownsReceiver = false := by
    intro g
    rw [ownsReceiver, kind]
    cases g.node.isFunction <;> simp
  rw [Node.readsReceiver, ← map_node_children, ← map_node_visit, List.any_map, List.any_eq_true, visit_eq_flatMap]
  constructor
  · rintro ⟨m, hm, hr⟩
    obtain ⟨c, hc, hm⟩ := List.mem_flatMap.mp hm
    obtain ⟨hw, hall⟩ := mem_visit.mp hm
    exact ⟨c, hc, m, hw, hr, fun g hg hgc => (henter g).mp (hall g hg hgc)⟩
  · rintro ⟨c, hc, m, hw, hr, hall⟩
    refine ⟨m, List.mem_flatMap.mpr ⟨c, hc, mem_visit.mpr ⟨hw, fun g hg hgc => ?_⟩⟩, hr⟩
    exact (henter g).mpr (hall g hg hgc)

/-- What lies in no function with a receiver of its own is found. -/
theorem readsReceiver_of_takes (h : f.TakesReceiver m) (hu : ¬ f.Unentered m) : f.node.readsReceiver = true := by
  obtain ⟨c, hc, hw⟩ := (mem_walk.mp h.inside).resolve_left h.ne
  refine readsReceiver_iff_mem_visit.mpr ⟨c, hc, m, hw, h.receiver, fun g hg hgc => ?_⟩
  have hgf : g ≠ f := by
    rintro rfl
    have hlt := length_lt_of_below hc hgc
    omega
  rw [← Bool.not_eq_true]
  exact fun ho => hu ⟨g, hg, mem_walk_of_child hc hgc, hgf, ho⟩

/-- What is found is used from outside, for it lies in no function with a receiver of its own. -/
theorem takes_of_readsReceiver (h : f.node.readsReceiver = true) : ∃ m, f.TakesReceiver m ∧ ¬ f.Unentered m := by
  obtain ⟨c, hc, m, hw, hr, hall⟩ := readsReceiver_iff_mem_visit.mp h
  have hu : ¬ f.Unentered m := by
    rintro ⟨g, hg, hgf, hne, ho⟩
    rw [hall g hg (mem_walk_of_between hc hw hg hgf hne)] at ho
    cases ho
  have hm : m ≠ f := by
    rintro rfl
    have hlt := length_lt_of_below hc hw
    omega
  refine ⟨m, ⟨hr, mem_walk_of_child hc hw, hm, fun g hg hne ho d hd _ hmd => ?_⟩, hu⟩
  exact hu ⟨g, mem_ancestors_of_below hd hmd, hg, hne, ho⟩

/-- An arrow function that is found to use a receiver asks for the impossible. -/
theorem not_constant_of_readsReceiver (hf : f.kind = Kind.arrow) (h : f.node.readsReceiver = true) (r : Resolver) :
    (r.pureEnough f).value = false ∧ (r.constant f).value = false := by
  have hfun : f.functionRequirements = [.impossible (some .outerReceiver)] := if_pos ⟨hf, h⟩
  have hreq : f.requirements = f.functionRequirements := by
    unfold requirements
    rw [hf]
    rfl
  have hpure : (r.pureEnough f).value = false := by
    rw [Resolver.pureEnough, hfun]
    rfl
  refine ⟨hpure, ?_⟩
  rw [Resolver.constant_eq, hreq]
  exact hpure

/-- The search finds a receiver exactly when one is used from outside that lies in no part of a function with a receiver
of its own, and the arrow function then stays where it is. So the answer is right exactly when, among the receivers used
from outside, if there are any, one lies in no such part. -/
theorem readsReceiver_exact (f : Site) (hf : f.kind = Kind.arrow) :
    (f.node.readsReceiver = true ↔ ∃ m, f.TakesReceiver m ∧ ¬ f.Unentered m) ∧
      (f.node.readsReceiver = true → ∀ r : Resolver, (r.pureEnough f).value = false ∧ (r.constant f).value = false) ∧
      ((f.node.readsReceiver = true ↔ ∃ m, f.TakesReceiver m) ↔
        ((∃ m, f.TakesReceiver m) → ∃ m, f.TakesReceiver m ∧ ¬ f.Unentered m)) := by
  have hfound : f.node.readsReceiver = true ↔ ∃ m, f.TakesReceiver m ∧ ¬ f.Unentered m :=
    ⟨takes_of_readsReceiver, fun ⟨_, hm, hu⟩ => readsReceiver_of_takes hm hu⟩
  refine ⟨hfound, not_constant_of_readsReceiver hf, ?_⟩
  rw [hfound]
  exact ⟨Iff.mpr, fun h => ⟨fun ⟨m, hm, _⟩ => ⟨m, hm⟩, h⟩⟩

end Site

namespace Sample

/-- `[this.k]() {}`. -/
def computedMethod : Node :=
  .mk { kind := "method_definition", leading := " " }
    [.mk { kind := Kind.computedName, field := some "name" }
        [.token "[",
          .mk { kind := "member_expression" }
            [.mk { kind := "this", text := "this", field := some "object" } [], .token ".",
              .mk { kind := "property_identifier", text := "k", field := some "property" } []],
          .token "]"],
      noParameters, .mk { kind := "statement_block", field := some "body", leading := " " } [.token "\x7b", .token "\x7d"]]

/-- The function `() => ({ [this.k]() {} })`. -/
def computedKey : Site :=
  .root (callback (.mk { kind := "parenthesized_expression", field := some "body", leading := " " }
    [.token "(", .mk { kind := Kind.object } [.token "\x7b", computedMethod, .token "\x7d" " "], .token ")"]))

/-- The `this` of `computedKey`. -/
def computedThis : Site := (computedKey.follow [2, 1, 1, 0, 1, 0]).getD computedKey

theorem computedKey_takes_receiver : computedKey.TakesReceiver computedThis :=
  ⟨by decide +kernel, by decide +kernel, by decide +kernel, by decide +kernel⟩

/-- The receiver in the name of the method is used from outside and not found, so the function counts as constant. -/
theorem computedKey_receiver_missed :
    computedKey.kind = Kind.arrow ∧ computedKey.TakesReceiver computedThis ∧ computedKey.node.readsReceiver = false ∧
      (Resolver.lexical.constant computedKey).value = true ∧
      ¬ (computedKey.node.readsReceiver = true ↔ ∃ m, computedKey.TakesReceiver m) ∧
      ∀ m, computedKey.TakesReceiver m → computedKey.Unentered m := by
  have hf : computedKey.kind = Kind.arrow := rfl
  have hmiss : computedKey.node.readsReceiver = false := by decide +kernel
  obtain ⟨hfound, _, hright⟩ := computedKey.readsReceiver_exact hf
  have hall : ∀ m, computedKey.TakesReceiver m → computedKey.Unentered m := by
    intro m hm
    by_contra hu
    exact Bool.noConfusion (hmiss.symm.trans (hfound.mpr ⟨m, hm, hu⟩))
  refine ⟨hf, computedKey_takes_receiver, hmiss, by decide +kernel, ?_, hall⟩
  rw [hright]
  intro h
  obtain ⟨m, hm, hu⟩ := h ⟨computedThis, computedKey_takes_receiver⟩
  exact hu (hall m hm)

/-- Not every arrow function that uses a receiver from outside is found to do so. -/
theorem receiver_not_always_found :
    ¬ ∀ f : Site, f.kind = Kind.arrow → (f.node.readsReceiver = true ↔ ∃ m, f.TakesReceiver m) := by
  intro h
  have hfound := (h computedKey rfl).mpr ⟨computedThis, computedKey_takes_receiver⟩
  exact absurd hfound (by decide +kernel)

end Sample

end AttrHoist
