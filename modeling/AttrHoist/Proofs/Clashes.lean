import AttrHoist.Proofs.Lemmas.Scopes
import AttrHoist.Proofs.Undo

/-!
# Generated names over several passes

Every pass counts its names from zero and does not look at the names that the module has already. So the names that a
module declares stay distinct as long as one pass at most moves anything, and clash as soon as a second one does.
-/

namespace AttrHoist

namespace Node

/-- The names that the declarations among the statements of a module bind. -/
def moduleNames (t : Node) : List String :=
  (t.children.filter (·.kind == Kind.lexicalDeclaration)).flatMap declaratorNames

/-- The tree after several passes, each with a filter and a resolver of its own. -/
def hoistAll (t : Node) : List ((String → Bool) × Resolver) → Node
  | [] => t
  | p :: passes => (t.hoist p.1 p.2).value.hoistAll passes

/-- How many values each of several passes moves. -/
def movedCounts (t : Node) : List ((String → Bool) × Resolver) → List Nat
  | [] => []
  | p :: passes => (t.accepted p.1 p.2).length :: (t.hoist p.1 p.2).value.movedCounts passes

end Node

/-- The names of `k` values that one pass moves. -/
def generatedNames (k : Nat) : List String := (List.range k).map generatedName

/-! ## One pass -/

theorem declaratorNames_declarationsOf (vs : List Node) :
    (declarationsOf vs).flatMap Node.declaratorNames = generatedNames vs.length := by
  rw [declarationsOf, List.flatMap_map]
  simp only [declaratorNames_declarationOf]
  rw [← List.map_eq_flatMap, generatedNames, List.range_eq_range', ← List.zipIdx_map_snd, List.map_map]
  rfl

namespace Node

/-- A pass keeps the names that a module declares and adds its own after them. -/
theorem moduleNames_hoist (t : Node) (accepts : String → Bool) (r : Resolver) :
    (t.hoist accepts r).value.moduleNames = t.moduleNames ++ generatedNames (t.accepted accepts r).length := by
  obtain ⟨ns, hns, _, hkept⟩ := t.children_hoist accepts r
  have hsim := Pass.similarity_kept accepts r
  have hnode : List.Forall₂ (Pass.KeptNode accepts r) t.children ns := by
    rw [show t.children = _ from (Site.map_node_children (.root t)).symm, List.forall₂_map_left_iff]
    exact hkept.imp fun s n h => ⟨s, rfl, h⟩
  have hdecl : ∀ d ∈ declarationsOf ((t.accepted accepts r).map Site.node),
      (d.kind == Kind.lexicalDeclaration) = true := by
    intro d hd
    obtain ⟨p, _, rfl⟩ := List.mem_map.mp hd
    rfl
  rw [moduleNames, hns, List.filter_append, List.flatMap_append, List.filter_eq_self.mpr hdecl,
    declaratorNames_declarationsOf, List.length_map]
  congr 1
  refine (rel_flatMap (rel_filter hnode fun a b hab => by rw [hsim.kind hab]) ?_).symm
  intro a ha b hab
  have hk : a.kind = Kind.lexicalDeclaration := by simpa using (List.mem_filter.mp ha).2
  exact hsim.parts.declaratorNames hab (by rw [hk]; decide)

theorem Fresh.moduleNames {t : Node} (h : t.Fresh) {name : String} (hm : name ∈ t.moduleNames) :
    hasStem name = false := by
  obtain ⟨d, hd, hm⟩ := List.mem_flatMap.mp hm
  exact (h.child (List.mem_filter.mp hd).1).declaratorNames hm

/-! ## Several passes -/

theorem moduleNames_hoistAll (t : Node) (passes : List ((String → Bool) × Resolver)) :
    (t.hoistAll passes).moduleNames = t.moduleNames ++ (t.movedCounts passes).flatMap generatedNames := by
  induction passes generalizing t with
  | nil => rw [hoistAll, movedCounts, List.flatMap_nil, List.append_nil]
  | cons p passes ih => rw [hoistAll, ih, moduleNames_hoist, movedCounts, List.flatMap_cons, List.append_assoc]

end Node

theorem nodup_generatedNames (k : Nat) : (generatedNames k).Nodup :=
  List.nodup_range.map generatedName_injective

theorem generatedName_zero_mem {k : Nat} (hk : 0 < k) : generatedName 0 ∈ generatedNames k :=
  List.mem_map.mpr ⟨0, List.mem_range.mpr hk, rfl⟩

/-- Runs of generated names clash as soon as there are two that are not empty. -/
theorem nodup_flatMap_generatedNames (ks : List Nat) :
    (ks.flatMap generatedNames).Nodup ↔ ks.countP (0 < ·) ≤ 1 := by
  induction ks with
  | nil => simp
  | cons k ks ih =>
      rw [List.flatMap_cons]
      by_cases hk : 0 < k
      · rw [List.countP_cons_of_pos (by simpa using hk)]
        constructor
        · intro hnd
          by_contra hcount
          obtain ⟨j, hj, hpos⟩ := List.countP_pos_iff.mp (show 0 < ks.countP (0 < ·) by omega)
          have hmem : generatedName 0 ∈ ks.flatMap generatedNames :=
            List.mem_flatMap.mpr ⟨j, hj, generatedName_zero_mem (by simpa using hpos)⟩
          exact (List.nodup_append.mp hnd).2.2 _ (generatedName_zero_mem hk) _ hmem rfl
        · intro hcount
          have hnil : ks.flatMap generatedNames = [] := by
            refine List.flatMap_eq_nil_iff.mpr fun j hj => ?_
            have hpos := List.countP_eq_zero.mp (show ks.countP (0 < ·) = 0 by omega) j hj
            rw [show j = 0 by simpa using hpos]
            rfl
          rw [hnil, List.append_nil]
          exact nodup_generatedNames k
      · have hz : k = 0 := by omega
        rw [List.countP_cons_of_neg (by simpa using hk), ← ih, hz]
        rfl

/-- Over passes with any filters and resolvers, each pass adds the names of the values that it moves, counted from
zero, to the names that the module declares. From a module with distinct names and no generated ones, the names stay
distinct exactly when at most one of the passes moves anything. -/
theorem Node.nodup_moduleNames_iff (t : Node) (hf : t.Fresh) (hd : t.moduleNames.Nodup)
    (passes : List ((String → Bool) × Resolver)) :
    (t.hoistAll passes).moduleNames = t.moduleNames ++ (t.movedCounts passes).flatMap generatedNames ∧
      ((t.hoistAll passes).moduleNames.Nodup ↔ (t.movedCounts passes).countP (0 < ·) ≤ 1) := by
  have hnames := t.moduleNames_hoistAll passes
  refine ⟨hnames, ?_⟩
  rw [hnames, ← nodup_flatMap_generatedNames, List.nodup_append]
  refine ⟨fun h => h.2.1, fun h => ⟨hd, h, ?_⟩⟩
  -- the names of the module do not look like generated ones
  rintro a ha b hb rfl
  obtain ⟨k, _, hk⟩ := List.mem_flatMap.mp hb
  obtain ⟨i, _, rfl⟩ := List.mem_map.mp hk
  have hstem := hf.moduleNames ha
  rw [hasStem_generatedName] at hstem
  cases hstem

namespace Sample

/-- A pass that takes the values of one attribute. -/
def only (name : String) : (String → Bool) × Resolver := (fun a => a == name, .lexical)

/-- A pass that is made twice over the sample module moves a value only once, and the names are distinct. -/
theorem nested_names_distinct : nested.Fresh ∧ nested.moduleNames.Nodup ∧
    nested.movedCounts [only "style", only "style"] = [1, 0] ∧
    (nested.hoistAll [only "style", only "style"]).moduleNames.Nodup := by
  have hf : nested.Fresh := by decide +kernel
  have hd : nested.moduleNames.Nodup := by decide +kernel
  have hcounts : nested.movedCounts [only "style", only "style"] = [1, 0] := by decide +kernel
  refine ⟨hf, hd, hcounts, (nested.nodup_moduleNames_iff hf hd _).2.mpr ?_⟩
  rw [hcounts]
  decide

/-- Passes for the inner and then for the outer attribute of the sample module declare the same name twice. -/
theorem nested_names_clash : nested.kind = Kind.program ∧ nested.Fresh ∧ nested.moduleNames.Nodup ∧
    (nested.hoistAll [only "style", only "render"]).moduleNames = ["__$hoisted_o0", "__$hoisted_o0"] ∧
    ¬ (nested.hoistAll [only "style", only "render"]).moduleNames.Nodup := by
  have hnames : (nested.hoistAll [only "style", only "render"]).moduleNames = ["__$hoisted_o0", "__$hoisted_o0"] := by
    decide +kernel
  refine ⟨rfl, by decide +kernel, by decide +kernel, hnames, ?_⟩
  rw [hnames]
  decide

end Sample

end AttrHoist
