import AttrHoist.Proofs.Lemmas.Scopes

/-!
# What a pass takes, and in which order

A pass takes the outermost acceptable values in reading order. Acceptability is judged on the tree as it was given, so
the order in which the tree is worked through shows in the numbers of the names and nowhere else.
-/

namespace AttrHoist

namespace Pass

/-- Whether the value at a site is considered for hoisting and may be moved. -/
def acceptable (accepts : String → Bool) (r : Resolver) (s : Site) : Bool :=
  s.isCandidate accepts && (r.hoistable s).value

theorem taken_eq_acceptable (accepts : String → Bool) (r : Resolver) : taken accepts r = acceptable accepts r := by
  funext s
  rw [taken, takes, acceptable]
  cases s.isCandidate accepts with
  | true => rfl
  | false => rfl

end Pass

/-- The entries of values that are registered when `k` names are in use. -/
def entriesFrom (k : Nat) (vs : List Site) : List Entry :=
  (vs.zipIdx k).map fun p => ⟨p.2, generatedStem ++ toString p.2, p.1.node.withLeading ""⟩

theorem getElem?_entriesFrom {vs : List Site} {i : Nat} {e : Entry} (h : (entriesFrom 0 vs)[i]? = some e) :
    ∃ v, vs[i]? = some v ∧ e = ⟨i, generatedName i, v.node.withLeading ""⟩ := by
  rw [entriesFrom, List.getElem?_map, List.getElem?_zipIdx] at h
  cases hv : vs[i]? with
  | none =>
      rw [hv] at h
      cases h
  | some v =>
      rw [hv, Nat.zero_add] at h
      exact ⟨v, rfl, (Option.some.inj h).symm⟩

/-! ## What working through a tree registers -/

namespace Registry

theorem entries_insertAll_sites (es : List Entry) (vs : List Site) :
    (insertAll { entries := es } (vs.map Site.node)).entries = es ++ entriesFrom es.length vs := by
  rw [entries_insertAll _ _ rfl, entriesFrom, List.zipIdx_map, List.map_map]
  rfl

end Registry

namespace Pass

/-- Wherever the traversal gets to, it adds the outermost values below, whatever has been registered before. -/
theorem entries_replace {accepts : String → Bool} {r : Resolver} {s : Site}
    (hs : ∀ a ∈ s.ancestors, acceptable accepts r a = false) (es : List Entry) :
    (replace (takes accepts r) s.trail s.node { entries := es }).value.2.entries =
      es ++ entriesFrom es.length (s.walk.filter (outermost (acceptable accepts r))) := by
  rw [← taken_eq_acceptable] at hs ⊢
  obtain ⟨vs, hr, hreg⟩ := replace_rewritten (takes accepts r) s.node s.trail { entries := es } rfl
  have hvs : vs = s.walk.filter (outermost (taken accepts r)) := hr.sites_eq hs
  rw [hreg, Registry.entries_insertAll_sites, hvs]

end Pass

/-! ## A whole pass -/

namespace Node

/-- The entries in the registry of a pass when the tree has been worked through. -/
def drained (t : Node) (accepts : String → Bool) (r : Resolver) : List Entry :=
  (Pass.replace (Pass.takes accepts r) [] t {}).value.2.entries

theorem accepted_eq (t : Node) (accepts : String → Bool) (r : Resolver) :
    t.accepted accepts r = t.sites.filter (Pass.outermost (Pass.acceptable accepts r)) := by
  rw [accepted, Pass.taken_eq_acceptable]

theorem drained_eq (t : Node) (accepts : String → Bool) (r : Resolver) :
    t.drained accepts r = entriesFrom 0 (t.accepted accepts r) := by
  have hroot : ∀ a ∈ (Site.root t).ancestors, Pass.acceptable accepts r a = false := fun a ha => by cases ha
  rw [accepted_eq]
  exact Pass.entries_replace hroot []

/-- A pass registers exactly the acceptable values of the tree that lie in no other acceptable value, in reading order,
and names them by their numbers. Each of them has left a reference to its name at its place, and the declarations
after the statements are those of the entries, in order. What the traversal adds at a site that it gets to is the same
whatever has been registered before. -/
theorem hoist_takes_outermost (t : Node) (accepts : String → Bool) (r : Resolver) :
    t.drained accepts r = entriesFrom 0 (t.sites.filter (Pass.outermost (Pass.acceptable accepts r))) ∧
      (∀ (i : Nat) v, (t.sites.filter (Pass.outermost (Pass.acceptable accepts r)))[i]? = some v →
        ∃ path v', (Site.root t).follow path = some v ∧
          (Site.root (t.hoist accepts r).value).follow path = some v' ∧
          v'.node = .identifier (generatedStem ++ toString i) v.node.leading v.node.field) ∧
      (t.hoist accepts r).value.children.length = t.children.length + (t.drained accepts r).length ∧
      (∀ (i : Nat) e, (t.drained accepts r)[i]? = some e →
        (t.hoist accepts r).value.children[t.children.length + i]? = some e.declaration ∧
          e.declaration.declaratorNames = [generatedStem ++ toString i]) ∧
      ∀ s ∈ t.sites, (∀ a ∈ s.ancestors, Pass.acceptable accepts r a = false) → ∀ es,
        (Pass.replace (Pass.takes accepts r) s.trail s.node { entries := es }).value.2.entries =
          es ++ entriesFrom es.length (s.walk.filter (Pass.outermost (Pass.acceptable accepts r))) := by
  rw [← accepted_eq]
  refine ⟨drained_eq t accepts r, fun i v hv => reference_hoist hv, ?_, ?_, fun s _ hs => Pass.entries_replace hs⟩
  · rw [length_children_hoist, drained_eq, entriesFrom, List.length_map, List.length_zipIdx]
  · intro i e he
    rw [drained_eq] at he
    obtain ⟨v, hv, rfl⟩ := getElem?_entriesFrom he
    exact ⟨declaration_hoist hv, declaratorNames_declarationOf i v.node⟩

end Node

namespace Sample

/-- `() => p, <B style={{ a: 1 }} />`, which is not constant. -/
def refused : Node :=
  callback (.mk { kind := "sequence_expression", field := some "body" }
    [.identifier "p" " ", .token ",", markup "style" record])

/-- A module with the same inner markup in a callback that stays and in one that moves. -/
def mixed : Node :=
  .mk { kind := Kind.program }
    [importB, component (markup "render" refused),
      component (markup "render" (callback (markup "style" record (some "body"))))]

/-- From the callback that stays the inner value is taken, from the other one the callback as a whole. -/
theorem mixed_takes_outermost :
    (mixed.drained (fun _ => true) .lexical).map (fun e => (e.index, e.name, e.expression)) =
        [(0, "__$hoisted_o0", record), (1, "__$hoisted_o1", callback (markup "style" record (some "body")))] ∧
      (mixed.hoist (fun _ => true) .lexical).value.children.length = 5 ∧
      ∃ d, (mixed.hoist (fun _ => true) .lexical).value.children[4]? = some d ∧
        d.declaratorNames = ["__$hoisted_o1"] := by
  obtain ⟨hentries, _, hlength, hdecl, _⟩ := mixed.hoist_takes_outermost (fun _ => true) .lexical
  have heval : (entriesFrom 0 (mixed.sites.filter (Pass.outermost (Pass.acceptable (fun _ => true) .lexical)))).map
      (fun e => (e.index, e.name, e.expression)) =
      [(0, "__$hoisted_o0", record), (1, "__$hoisted_o1", callback (markup "style" record (some "body")))] := by
    decide +kernel
  rw [← hentries] at heval
  have hl : (mixed.drained (fun _ => true) .lexical).length = 2 := by simpa using congrArg List.length heval
  have he : (mixed.drained (fun _ => true) .lexical)[1]? ≠ none := by
    rw [ne_eq, List.getElem?_eq_none_iff, hl]
    decide
  obtain ⟨e, he⟩ := Option.ne_none_iff_exists'.mp he
  refine ⟨heval, by rw [hlength, hl]; rfl, e.declaration, (hdecl 1 e he).1, (hdecl 1 e he).2⟩

end Sample

end AttrHoist
