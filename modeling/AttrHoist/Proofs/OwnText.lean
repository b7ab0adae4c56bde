import AttrHoist.Proofs.Lemmas.Similar
import AttrHoist.Proofs.Lemmas.Spans

/-!
# The text of single nodes

A tree is built with a node for every span, in the same places and with the same kinds and roles. Where the spans are
well nested, every node has exactly the text of its span, and the root also what follows its span.
-/

namespace AttrHoist

namespace Concrete

/-- `c.Labels role n`: the node `n` has the kind of `c` and stands in the role `role`. -/
structure Labels (c : Concrete) (role : Option String) (n : Node) : Prop where
  kind : n.kind = c.kind
  named : n.named = c.named
  field : n.field = role

/-- `c.Carries source role stop n`: the node `n` is labelled so and has the text from the start of `c` to `stop`. -/
structure Carries (source : String) (c : Concrete) (role : Option String) (stop : Nat) (n : Node) : Prop
    extends c.Labels role n where
  text : String.fromUTF8? (source.toUTF8.extract c.start stop) = some n.sourceText

/-! ## Shape -/

/-- What a node takes from its span, whatever the positions. -/
structure Shaped (bytes : ByteArray) (c : Concrete) (role : Option String) (n : Node) : Prop
    extends c.Labels role n where
  children : ∃ pos stop, buildAll bytes pos c.children = some (n.children, stop)

variable {bytes : ByteArray} {source : String} {pos stop : Nat} {role : Option String} {c root : Concrete}
  {cs : List Concrete} {n t : Node} {ns : List Node}

theorem shaped_of_build (h : c.build bytes pos role = some (n, stop)) : c.Shaped bytes role n := by
  obtain ⟨kind, start, stop, named, field, children⟩ := c
  rw [build_mk, Option.map_eq_some_iff] at h
  obtain ⟨⟨⟨⟨leading, nodes⟩, own⟩, q⟩, hsteps, he⟩ := h
  obtain ⟨mid, hfront, _⟩ := andThen_inv hsteps
  obtain ⟨p, _, hchildren⟩ := andThen_inv hfront
  cases he
  cases nodes with
  | nil => exact ⟨⟨rfl, rfl, rfl⟩, p, mid, hchildren⟩
  | cons m ms => exact ⟨⟨rfl, rfl, rfl⟩, p, mid, hchildren⟩

theorem shaped_of_buildAll (h : buildAll bytes pos cs = some (ns, stop)) :
    List.Forall₂ (fun c n => c.Shaped bytes c.field n) cs ns := by
  induction cs generalizing pos ns with
  | nil =>
      cases h
      exact .nil
  | cons c cs ih =>
      rw [buildAll_cons, Option.map_eq_some_iff] at h
      obtain ⟨⟨⟨n, ms⟩, q⟩, hsteps, he⟩ := h
      obtain ⟨p, hc, hcs⟩ := andThen_inv hsteps
      cases he
      exact .cons (shaped_of_build hc) (ih hcs)

theorem shaped_of_toNode? (h : root.toNode? source = some t) : root.Shaped source.toUTF8 none t := by
  rw [toNode?_eq, Option.map_eq_some_iff] at h
  obtain ⟨⟨⟨⟨head, nodes⟩, rest⟩, q⟩, hsteps, rfl⟩ := h
  obtain ⟨p, hroot, _⟩ := andThen_inv hsteps
  obtain ⟨⟨hkind, hnamed, hfield⟩, hchildren⟩ := shaped_of_build hroot
  exact ⟨⟨hkind, hnamed, hfield⟩, hchildren⟩

/-! ## Text -/

theorem fromUTF8?_toUTF8 (text : String) : String.fromUTF8? text.toUTF8 = some text := dif_pos text.isValidUTF8

theorem OverAll.forall₂ {mid : Nat} (h : OverAll bytes pos cs ns mid) :
    List.Forall₂ (fun c n => ∃ pos, Over bytes pos c n) cs ns := by
  induction cs generalizing pos ns with
  | nil =>
      cases h
      exact .nil
  | cons c cs ih =>
      cases h with
      | cons h hs => exact .cons ⟨pos, h⟩ (ih hs)

/-- `c.Owns source n`: the node `n` is built from `c` in its own role and owns the bytes of `c`. -/
structure Owns (source : String) (c : Concrete) (n : Node) : Prop where
  shaped : c.Shaped source.toUTF8 c.field n
  covered : ∃ pos, Over source.toUTF8 pos c n

theorem Owns.carries (h : c.Owns source n) : c.Carries source c.field c.stop n := by
  obtain ⟨pos, ho⟩ := h.covered
  refine ⟨h.shaped.toLabels, ?_⟩
  rw [← ho.toUTF8_sourceText]
  exact fromUTF8?_toUTF8 n.sourceText

theorem owns_children {mid : Nat} (hs : c.Shaped source.toUTF8 role n)
    (ho : OverAll source.toUTF8 pos c.children n.children mid) :
    List.Forall₂ (Owns source) c.children n.children := by
  obtain ⟨_, _, hb⟩ := hs.children
  exact (shaped_of_buildAll hb).mp (fun _ _ => Owns.mk) ho.forall₂

theorem Owns.children (h : c.Owns source n) : List.Forall₂ (Owns source) c.children n.children := by
  obtain ⟨_, ho⟩ := h.covered
  obtain ⟨_, _, hchildren, _, _⟩ := ho.inv
  exact owns_children h.shaped hchildren

/-- Every way down leads to a span and to the node that carries its text, or out of both trees. -/
theorem rel_follow (h : List.Forall₂ (Owns source) c.children n.children) (i : Nat) (path : List Nat) :
    Option.Rel (fun c n => c.Carries source c.field c.stop n) (c.follow (i :: path)) (n.follow (i :: path)) := by
  induction path generalizing c n i with
  | nil => exact rel_bind (rel_index h i) fun _ _ hi => .some hi.carries
  | cons j path ih => exact rel_bind (rel_index h i) fun _ _ hi => ih hi.children j

/-- Well nested spans are built into a tree of the same shape, in which every node has the kind of its span, its role and
its text. The root has no role, and its text goes on to the end of the source. -/
theorem toNode?_carries (h : root.WellNested source) : ∃ t, root.toNode? source = some t ∧
    root.Carries source none source.utf8ByteSize t ∧ ∀ i path, Option.Rel
      (fun c n => c.Carries source c.field c.stop n) (root.follow (i :: path)) (t.follow (i :: path)) := by
  obtain ⟨t, mid, ht, _, hchildren, hmid, hclosing⟩ := toNode?_over h
  -- the root is not built in its own role and has more text than its span, so only its children are like the others
  have hs := shaped_of_toNode? ht
  refine ⟨t, ht, ⟨hs.toLabels, ?_⟩, rel_follow (owns_children hs hchildren)⟩
  rw [← hchildren.toUTF8_sourceText hmid hclosing]
  exact fromUTF8?_toUTF8 t.sourceText

end Concrete

namespace Sample

/-- A sum, after two blanks and before a line break. -/
def accented : String := "  é + ü ;\n"

/-- The span of the sum, with a blank after its last part. -/
def accentedSum : Concrete :=
  .mk Kind.binary 2 10 true none
    [.mk Kind.identifier 2 4 true (some "left") [], .mk "+" 5 6 false (some "operator") [],
      .mk Kind.identifier 7 9 true (some "right") []]

/-- An empty span stands between the sum and the semicolon. -/
def accentedRoot : Concrete :=
  .mk Kind.program 2 11 true (some "ignored")
    [.mk "expression_statement" 2 11 true none
      [accentedSum, .mk Kind.identifier 10 10 true none [], .mk ";" 10 11 false none []]]

theorem accented_carries : accentedRoot.WellNested accented ∧ ∃ t sum, accentedRoot.toNode? accented = some t ∧
    t.field = none ∧ t.sourceText = "é + ü ;\n" ∧
    t.follow [0, 0] = some sum ∧ sum.kind = Kind.binary ∧ sum.sourceText = "é + ü " := by
  have hnested : accentedRoot.WellNested accented := by decide +kernel
  obtain ⟨t, ht, hroot, hbelow⟩ := Concrete.toNode?_carries hnested
  have hsum := hbelow 0 [0]
  rw [show accentedRoot.follow [0, 0] = some accentedSum from rfl] at hsum
  obtain ⟨sum, hfollow, hcarries⟩ := rel_some_left hsum
  have hrest : String.fromUTF8? (accented.toUTF8.extract 2 accented.utf8ByteSize) = some "é + ü ;\n" := by decide +kernel
  have hpart : String.fromUTF8? (accented.toUTF8.extract 2 10) = some "é + ü " := by decide +kernel
  exact ⟨hnested, t, sum, ht, hroot.field, Option.some.inj (hroot.text.symm.trans hrest), hfollow, hcarries.kind,
    Option.some.inj (hcarries.text.symm.trans hpart)⟩

end Sample

end AttrHoist
