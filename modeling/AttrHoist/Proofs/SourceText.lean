import AttrHoist.Proofs.Lemmas.Edits
import AttrHoist.Proofs.Lemmas.Output
import AttrHoist.Proofs.Lemmas.Spans
import AttrHoist.Source.Hoist

/-!
# What a pass does to source text

Names take the place of the spans that the pass moves, the declarations follow the last statement, and every other
byte stays where it is.
-/

namespace AttrHoist

/-! ## The edits of a pass -/

/-- The edits that put names in the place of spans, the first the name of the value that is taken after `k` others. -/
def references : Nat → List Concrete → List Edit
  | _, [] => []
  | k, c :: cs => ⟨c.start, c.stop, (generatedName k).toUTF8⟩ :: references (k + 1) cs

/-- The edits that declare these names as what stands in the spans, all at one place. -/
def insertions (bytes : ByteArray) (place : Nat) : Nat → List Concrete → List Edit
  | _, [] => []
  | k, c :: cs =>
    ⟨place, place, ("\nconst " ++ generatedName k ++ " = ").toUTF8 ++ bytes.extract c.start c.stop ++ ";".toUTF8⟩ ::
      insertions bytes place (k + 1) cs

theorem references_append (k : Nat) (cs ds : List Concrete) :
    references k (cs ++ ds) = references k cs ++ references (k + cs.length) ds := by
  induction cs generalizing k with
  | nil => rfl
  | cons c cs ih =>
      rw [List.cons_append, references, references, ih, List.cons_append, List.length_cons, Nat.add_right_comm,
        Nat.add_assoc]

variable {bytes : ByteArray} {place stop : Nat}

theorem within_insertions (h : place ≤ stop) (k : Nat) (cs : List Concrete) :
    Edit.Within place stop (insertions bytes place k cs) := by
  induction cs generalizing k with
  | nil => exact h
  | cons c cs ih => exact ⟨Nat.le_refl _, Nat.le_refl _, ih (k + 1)⟩

/-! ## Replaced values -/

theorem render_identifier (name leading : String) (field : Option String) :
    (Node.identifier name leading field).render = leading ++ name := by
  rw [Node.identifier, Node.render]
  exact String.append_empty

/-- `c` is the span of `v`, and the node of `v` prints as it. -/
def Spelled (bytes : ByteArray) (root : Concrete) (v : Site) (c : Concrete) : Prop :=
  root.spanOf? v = some c ∧ v.node.sourceText.toUTF8 = bytes.extract c.start c.stop

namespace Pass
variable {accepts : String → Bool} {r : Resolver} {root : Concrete}

mutual
/-- What takes the place of a tree prints as the bytes of the tree with names for the spans of the taken values. -/
theorem Rewritten.toUTF8_render {s k n vs} (h : Rewritten (taken accepts r) s k n vs) {pos : Nat} {c : Concrete}
    (ho : Concrete.Over bytes pos c s.node) (hs : root.spanOf? s = some c) :
    ∃ ds, List.Forall₂ (Spelled bytes root) vs ds ∧ Edit.Within pos c.stop (references k ds) ∧
      n.render.toUTF8 = splice bytes pos c.stop (references k ds) := by
  match h with
  | .taken _ =>
      refine ⟨[c], .cons ⟨hs, ho.toUTF8_sourceText⟩ .nil,
        ⟨ho.pos_le_start, ho.start_le_stop, Nat.le_refl _⟩, ?_⟩
      calc (Node.identifier (generatedName k) s.node.leading s.node.field).render.toUTF8
          = s.node.leading.toUTF8 ++ (generatedName k).toUTF8 := by
            rw [render_identifier, toUTF8_append]
        _ = bytes.extract pos c.start ++ (generatedName k).toUTF8 ++ bytes.extract c.stop c.stop := by
            rw [ho.inv.1, ByteArray.extract_same, ByteArray.append_empty]
  | @Rewritten.kept _ _ _ ns _ _ hc =>
      obtain ⟨hleading, mid, hchildren, hmid, hclosing⟩ := ho.inv
      obtain ⟨ds, hd, hw, hr⟩ := RewrittenAll.toUTF8_renderAll hc (by rwa [Site.map_node_children])
        (Concrete.spanOf?_children hs hchildren.length_eq)
      -- no child is lost, so the text after them stays the closing text
      have hl : s.node.children.length = ns.length := by rw [← Site.length_children, hc.becomes.length_eq]
      have he : s.node.children = [] ↔ ns = [] := by rw [← List.length_eq_zero_iff, hl, List.length_eq_zero_iff]
      rw [Node.closing_congr he] at hclosing
      exact ⟨ds, hd, Concrete.toUTF8_render_mk ho.pos_le_start hleading hw hr hmid hclosing⟩

theorem RewrittenAll.toUTF8_renderAll {ss k ns vs} (h : RewrittenAll (taken accepts r) ss k ns vs) {pos mid : Nat}
    {cs : List Concrete} (ho : Concrete.OverAll bytes pos cs (ss.map Site.node) mid)
    (hs : List.Forall₂ (fun s c => root.spanOf? s = some c) ss cs) :
    ∃ ds, List.Forall₂ (Spelled bytes root) vs ds ∧ Edit.Within pos mid (references k ds) ∧
      (Node.renderAll ns).toUTF8 = splice bytes pos mid (references k ds) := by
  match h, hs with
  | .nil, .nil =>
      cases ho
      exact ⟨[], .nil, Nat.le_refl _, ByteArray.extract_same.symm⟩
  | .cons h hrest, .cons hc hcs =>
      cases ho with
      | cons ho hos =>
          obtain ⟨ds, hd, hw, hr⟩ := Rewritten.toUTF8_render h ho hc
          obtain ⟨es, he, hw', hr'⟩ := RewrittenAll.toUTF8_renderAll hrest hos hcs
          rw [hd.length_eq] at hw' hr'
          refine ⟨ds ++ es, List.rel_append hd he, ?_, ?_⟩
          · rw [references_append]
            exact hw.append hw'
          · rw [references_append, ← splice_append hw hw', ← hr, ← hr']
            exact toUTF8_append _ _
end

end Pass

/-! ## Declarations -/

theorem render_asValue (v : Node) : v.asValue.render = " " ++ v.sourceText := by
  obtain ⟨h, cs⟩ := v
  rw [Node.asValue, Node.mapHead, Node.render_mk, Node.sourceText_mk]
  rfl

theorem render_declarationOf (i : Nat) (v : Node) :
    (declarationOf i v).render = "\nconst " ++ generatedName i ++ " = " ++ v.sourceText ++ ";" := by
  have hconst : "\nconst " = "\n" ++ ("const" ++ " ") := by decide
  have hequals : " = " = " " ++ ("=" ++ " ") := by decide
  rw [declarationOf_eq, hconst, hequals]
  simp only [declaratorOf, Node.render, Node.renderAll, Node.token, Node.identifier, render_asValue, Kind.constKeyword,
    String.append_assoc, String.append_empty, String.empty_append]

theorem toUTF8_declarations {root : Concrete} {vs : List Site} {cs : List Concrete}
    (h : List.Forall₂ (Spelled bytes root) vs cs) (k : Nat) :
    (Node.renderAll (((vs.map Site.node).zipIdx k).map fun p => declarationOf p.2 p.1)).toUTF8 =
      splice bytes place place (insertions bytes place k cs) := by
  induction h generalizing k with
  | nil => exact ByteArray.extract_same.symm
  | @cons v c vs cs hv _ ih =>
      rw [List.map_cons, List.zipIdx_cons, List.map_cons, Node.renderAll, toUTF8_append, ih (k + 1),
        render_declarationOf, toUTF8_append, toUTF8_append, hv.2, insertions, splice, ByteArray.extract_same, ByteArray.empty_append]

/-! ## Growth -/

theorem removed_insertions (k : Nat) (cs : List Concrete) :
    total Edit.removed (insertions bytes place k cs) = 0 := by
  induction cs generalizing k with
  | nil => rfl
  | cons c cs ih => rw [insertions, total, ih, Edit.removed, Nat.sub_self]

/-- The declarations hold all that the references replace, and more. -/
theorem removed_references_le (place : Nat) {k : Nat} {cs : List Concrete}
    (h : ∀ e ∈ references k cs, e.stop ≤ bytes.size) :
    total Edit.removed (references k cs) + cs.length ≤ total Edit.added (insertions bytes place k cs) := by
  induction cs generalizing k with
  | nil => exact Nat.le_refl 0
  | cons c cs ih =>
      have hc : c.stop ≤ bytes.size := h _ (List.mem_cons_self ..)
      have hrest := ih fun e he => h e (List.mem_cons_of_mem _ he)
      have hsemicolon : (";".toUTF8).size = 1 := rfl
      simp only [references, insertions, total, Edit.removed, Edit.added, ByteArray.size_append, ByteArray.size_extract,
        Nat.min_eq_left hc, hsemicolon, List.length_cons]
      omega

theorem size_add_length_le {cs : List Concrete} {k : Nat} (hs : stop ≤ bytes.size)
    (h : Edit.Within 0 stop (references k cs ++ insertions bytes place k cs)) :
    stop + cs.length ≤ (splice bytes 0 stop (references k cs ++ insertions bytes place k cs)).size := by
  have hsize := size_splice h hs
  have hle := removed_references_le place fun e he => Nat.le_trans (h.stop_le (List.mem_append_left _ he)) hs
  rw [total_append, total_append, removed_insertions] at hsize
  omega

/-! ## Whole sources -/

theorem Node.accepted_of_no_children {t : Node} {accepts : String → Bool} {r : Resolver} (h : t.children = []) :
    t.accepted accepts r = [] := by
  refine List.eq_nil_iff_forall_not_mem.mpr fun v hv => ?_
  obtain ⟨c, hc, _⟩ := statement_of_accepted hv
  have hn := Site.node_mem_children hc
  rw [show (Site.root t).node.children = [] from h] at hn
  cases hn

/-- A module without statements stays one, so what it prints at its end does not change. -/
theorem Node.closing_hoist (t : Node) (accepts : String → Bool) (r : Resolver) :
    closing (t.hoist accepts r).value.head (t.hoist accepts r).value.children = closing t.head t.children := by
  rw [head_hoist]
  refine closing_congr ?_
  rw [← List.length_eq_zero_iff, ← List.length_eq_zero_iff, length_children_hoist]
  refine ⟨fun h => by omega, fun h => ?_⟩
  rw [accepted_of_no_children (List.length_eq_zero_iff.mp h), h]
  rfl

theorem Concrete.toUTF8_hoist {source : String} {root : Concrete} (h : root.WellNested source) (accepts : String → Bool)
    (r : Resolver) : ∃ t cs mid, root.toNode? source = some t ∧
      List.Forall₂ (fun v c => root.spanOf? v = some c) (t.accepted accepts r) cs ∧
      (cs ≠ [] → ∃ last, root.children.getLast? = some last ∧ mid = last.stop) ∧
      Edit.Within 0 source.utf8ByteSize (references 0 cs ++ insertions source.toUTF8 mid 0 cs) ∧
      (t.hoist accepts r).value.render.toUTF8 =
        splice source.toUTF8 0 source.utf8ByteSize (references 0 cs ++ insertions source.toUTF8 mid 0 cs) := by
  obtain ⟨t, mid, ht, hleading, hchildren, hmid, hclosing⟩ := toNode?_over h
  obtain ⟨ns, hr, hout⟩ := t.hoist_eq accepts r
  have hspans : List.Forall₂ (fun s c => root.spanOf? s = some c) (Site.root t).children root.children :=
    spanOf?_children rfl hchildren.length_eq
  obtain ⟨cs, hcs, hw, hns⟩ := hr.toUTF8_renderAll (by rwa [Site.map_node_children]) hspans
  have hwi : Edit.Within mid mid (insertions source.toUTF8 mid 0 cs) := within_insertions (Nat.le_refl mid) 0 cs
  refine ⟨t, cs, mid, ht, hcs.imp fun _ _ hv => hv.1, ?_, ?_⟩
  · intro hne
    cases hlast : root.children.getLast? with
    | some last => exact ⟨last, rfl, hchildren.mid_eq hlast⟩
    | none =>
        -- without statements there is nothing to move
        have hl := hchildren.length_eq
        rw [List.getLast?_eq_none_iff.mp hlast] at hl
        rw [Node.accepted_of_no_children (List.length_eq_zero_iff.mp hl)] at hcs
        cases hcs
        exact absurd rfl hne
  · rw [← t.closing_hoist accepts r, hout] at hclosing
    rw [hout]
    refine toUTF8_render_mk (Nat.zero_le _) hleading (hw.append hwi) ?_ hmid hclosing
    rw [Node.renderAll_append, toUTF8_append, hns, ← splice_append hw hwi]
    exact congrArg _ (toUTF8_declarations hcs 0)

theorem Job.value_bind_ok {α β : Type} {x : Job α} {a : α} (h : x.run.value = .ok a) (f : α → Job β) :
    (x >>= f).run.value = (f a).run.value := by
  show (x.run >>= ExceptT.bindCont f).value = (f a).run.value
  rw [Traced.value_bind, h]
  rfl

section
variable {g : Grammar} {source language : String} {l : Language} {parsed : Parse} {t : Node}

theorem Grammar.value_parse (hl : Language.ofName? language = some l) (hg : g l source = some parsed)
    (ht : parsed.root.toNode? source = some t) : (g.parse source language).run.value = .ok t := by
  rw [Grammar.parse, hl]
  simp only [hg, ht]
  cases parsed.hasError with
  | false => rfl
  | true => rfl

theorem Grammar.value_hoistSource (hl : Language.ofName? language = some l) (hg : g l source = some parsed)
    (ht : parsed.root.toNode? source = some t) (options : Options) :
    (g.hoistSource source language options).run.value = .ok (t.hoist options.accepts .lexical).value.render := by
  rw [Grammar.hoistSource, Job.value_bind_ok rfl, Job.value_bind_ok (Grammar.value_parse hl hg ht)]
  rfl

/-- Where the spans of a grammar are well nested, hoisting succeeds, whatever names the filter accepts. The result is
the source with the name of each moved value in the place of its span and the declarations in order at the end of the
last statement; it is the source itself just when nothing is moved. -/
theorem Grammar.hoistSource_text (hl : Language.ofName? language = some l) (hg : g l source = some parsed)
    (hw : parsed.root.WellNested source) (accepts : String → Bool) :
    ∃ t cs result, parsed.root.toNode? source = some t ∧
      List.Forall₂ (fun v c => parsed.root.spanOf? v = some c) (t.accepted accepts .lexical) cs ∧
      (g.hoistSource source language { accepts }).run.value = .ok result ∧
      (cs ≠ [] → ∃ last, parsed.root.children.getLast? = some last ∧
        Edit.Within 0 source.utf8ByteSize (references 0 cs ++ insertions source.toUTF8 last.stop 0 cs) ∧
        result.toUTF8 = splice source.toUTF8 0 source.utf8ByteSize
          (references 0 cs ++ insertions source.toUTF8 last.stop 0 cs)) ∧
      (result = source ↔ cs = []) := by
  obtain ⟨t, cs, mid, ht, hcs, hlast, hwithin, hresult⟩ := Concrete.toUTF8_hoist hw accepts .lexical
  refine ⟨t, cs, _, ht, hcs, Grammar.value_hoistSource hl hg ht { accepts }, ?_, ?_, ?_⟩
  · intro hne
    obtain ⟨last, hl, rfl⟩ := hlast hne
    exact ⟨last, hl, hwithin, hresult⟩
  · intro he
    have hs : source.utf8ByteSize ≤ source.toUTF8.size := Nat.le_refl _
    have hsize := size_add_length_le hs hwithin
    rw [← hresult, he] at hsize
    exact List.length_eq_zero_iff.mp (Nat.le_zero.mp (Nat.le_of_add_le_add_left hsize))
  · rintro rfl
    rw [← String.toByteArray_inj]
    exact hresult.trans ByteArray.extract_zero_size

end

namespace Sample

def leaf (kind : Kind) (start stop : Nat) (named : Bool := true) (field : Option String := none) : Concrete :=
  .mk kind start stop named field []

/-- The spans of an attribute whose name starts at `start` and whose value, in braces, goes from `mid` to `stop`. -/
def attributeSpan (start mid stop : Nat) (value : Kind) : Concrete :=
  .mk Kind.markupAttribute start (stop + 1) true (some "attribute")
    [leaf "property_identifier" start (mid - 2), leaf "=" (mid - 2) (mid - 1) false,
      .mk Kind.markupContainer (mid - 1) (stop + 1) true none
        [leaf "\x7b" (mid - 1) mid false, leaf value mid stop, leaf "\x7d" stop (stop + 1) false]]

/-- A component with two constant attribute values, and a line break after it. -/
def twoValues : String := "() => <B a=\x7b'é'\x7d b=\x7b2\x7d />;\n"

def twoValuesRoot : Concrete :=
  .mk Kind.program 0 27 true none [
    .mk "expression_statement" 0 27 true none [
      .mk Kind.arrow 0 26 true none [
        .mk "formal_parameters" 0 2 true (some "parameters") [leaf "(" 0 1 false, leaf ")" 1 2 false],
        leaf "=>" 3 5 false,
        .mk "jsx_self_closing_element" 6 26 true (some "body") [
          leaf "<" 6 7 false, leaf Kind.identifier 7 8 true (some "name"), attributeSpan 9 12 16 Kind.string,
          attributeSpan 18 21 22 Kind.number, leaf "/>" 24 26 false]],
      leaf ";" 26 27 false]]

def twoValuesMoved : String :=
  "() => <B a=\x7b__$hoisted_o0\x7d b=\x7b__$hoisted_o1\x7d />;\nconst __$hoisted_o0 = 'é';\nconst __$hoisted_o1 = 2;\n"

/-- The text after a pass over the component is the source with four edits. -/
theorem twoValues_text : twoValuesRoot.WellNested twoValues ∧ ∃ cs last, cs.length = 2 ∧
    twoValuesRoot.children.getLast? = some last ∧ twoValuesMoved.toUTF8 =
      splice twoValues.toUTF8 0 twoValues.utf8ByteSize
        (references 0 cs ++ insertions twoValues.toUTF8 last.stop 0 cs) := by
  have hnested : twoValuesRoot.WellNested twoValues := by decide +kernel
  have hmoved : (twoValuesRoot.toNode? twoValues).map
      (fun t => (t.accepted Options.default.accepts .lexical).length) = some 2 := by decide +kernel
  have hvalue : (Grammar.hoistSource (fun _ _ => some ⟨twoValuesRoot, false⟩) twoValues "tsx" .default).run.value.toOption
      = some twoValuesMoved := by decide +kernel
  have hname : Language.ofName? "tsx" = some .tsx := by decide
  obtain ⟨t, cs, result, ht, hcs, hresult, htext, _⟩ :=
    Grammar.hoistSource_text (g := fun _ _ => some ⟨twoValuesRoot, false⟩) hname rfl hnested Options.default.accepts
  rw [hresult] at hvalue
  cases hvalue
  rw [ht] at hmoved
  have hlength : cs.length = 2 := hcs.length_eq ▸ Option.some.inj hmoved
  obtain ⟨last, hlast, _, hbytes⟩ := htext (fun he => by rw [he] at hlength; cases hlength)
  exact ⟨hnested, cs, last, hlength, hlast, hbytes⟩

end Sample

end AttrHoist
