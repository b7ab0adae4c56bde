import AttrHoist.Proofs.Lemmas.Edits
import AttrHoist.Proofs.Lemmas.Pieces
import AttrHoist.Proofs.Lemmas.Sites
import Mathlib.Data.List.Forall2

/-!
# Trees over well nested spans

Where the spans of a grammar are well nested, every span is built into a node that prints as the bytes of the span,
and the bytes between spans are the texts around the nodes.
-/

namespace AttrHoist

namespace Concrete

def kind : Concrete → Kind
  | mk kind _ _ _ _ _ => kind

def named : Concrete → Bool
  | mk _ _ _ named _ _ => named

def start : Concrete → Nat
  | mk _ start _ _ _ _ => start

def stop : Concrete → Nat
  | mk _ _ stop _ _ _ => stop

def children : Concrete → List Concrete
  | mk _ _ _ _ _ children => children

/-! ## Ways down -/

/-- The span reached by taking the children at the given positions, one after the other. -/
def follow (c : Concrete) : List Nat → Option Concrete
  | [] => some c
  | i :: path => c.children[i]?.bind (follow · path)

theorem follow_append (c : Concrete) (p q : List Nat) : c.follow (p ++ q) = (c.follow p).bind (·.follow q) := by
  induction p generalizing c with
  | nil => rfl
  | cons i p ih =>
      rw [List.cons_append, follow, follow]
      cases c.children[i]? with
      | none => rfl
      | some d => exact ih d

/-- The span of a site in the tree that is built from `root`. -/
def spanOf? (root : Concrete) (s : Site) : Option Concrete := root.follow s.address.reverse

theorem spanOf?_descend {root c d : Concrete} {s : Site} {i : Nat} (h : root.spanOf? s = some c)
    (hd : c.children[i]? = some d) (n : Node) : root.spanOf? (s.descend n i) = some d := by
  have ha : (s.descend n i).address.reverse = s.address.reverse ++ [i] := List.reverse_cons
  rw [spanOf?, ha, follow_append, show root.follow s.address.reverse = some c from h, Option.bind_some, follow, hd,
    Option.bind_some, follow]

theorem spanOf?_children {root c : Concrete} {s : Site} (h : root.spanOf? s = some c)
    (hl : s.node.children.length = c.children.length) :
    List.Forall₂ (fun s c => root.spanOf? s = some c) s.children c.children := by
  refine List.forall₂_iff_get.mpr ⟨by rw [Site.length_children, hl], ?_⟩
  intro i hi hi'
  have hs : s.children[i]? = some (s.children.get ⟨i, hi⟩) := List.getElem?_eq_getElem hi
  rw [Site.getElem?_children, Option.map_eq_some_iff] at hs
  obtain ⟨n, _, hn⟩ := hs
  rw [← hn]
  exact spanOf?_descend h (List.getElem?_eq_getElem hi') n

/-! ## Well nested spans -/

mutual
/-- Whether a span goes forward from one boundary of characters to another and holds its children in order, none
overlapping another, each well nested. -/
def WellNested (source : String) : Concrete → Prop
  | mk _ start stop _ _ children =>
    start ≤ stop ∧ String.Pos.Raw.IsValid source ⟨start⟩ ∧ String.Pos.Raw.IsValid source ⟨stop⟩ ∧
      WellNestedAll source start stop children

/-- The same for consecutive spans between two positions. -/
def WellNestedAll (source : String) (lo hi : Nat) : List Concrete → Prop
  | [] => lo ≤ hi
  | c :: cs => lo ≤ c.start ∧ c.WellNested source ∧ WellNestedAll source c.stop hi cs
end

mutual
def decWellNested (source : String) : (c : Concrete) → Decidable (c.WellNested source)
  | mk _ start stop _ _ children =>
    have := decWellNestedAll source start stop children
    inferInstanceAs (Decidable (_ ∧ _ ∧ _ ∧ WellNestedAll source start stop children))

def decWellNestedAll (source : String) (lo hi : Nat) : (cs : List Concrete) → Decidable (WellNestedAll source lo hi cs)
  | [] => inferInstanceAs (Decidable (lo ≤ hi))
  | c :: cs =>
    have := decWellNested source c
    have := decWellNestedAll source c.stop hi cs
    inferInstanceAs (Decidable (_ ∧ c.WellNested source ∧ WellNestedAll source c.stop hi cs))
end

instance (source : String) (c : Concrete) : Decidable (c.WellNested source) := decWellNested source c

theorem WellNested.stop_valid {source : String} {c : Concrete} (h : c.WellNested source) :
    String.Pos.Raw.IsValid source ⟨c.stop⟩ := by
  cases c
  exact h.2.2.1

/-! ## Nodes over spans -/

mutual
/-- `Over bytes pos c n`: the node `n` owns the bytes from `pos` to the end of `c`, those before `c` as its leading text
and those after the last child of `c` as its closing text. -/
inductive Over (bytes : ByteArray) : Nat → Concrete → Node → Prop
  | mk {pos kind start stop named field children head nodes mid} (hpos : pos ≤ start)
      (hleading : head.leading.toUTF8 = bytes.extract pos start)
      (hchildren : OverAll bytes start children nodes mid) (hmid : mid ≤ stop)
      (hclosing : (Node.closing head nodes).toUTF8 = bytes.extract mid stop) :
      Over bytes pos (.mk kind start stop named field children) (.mk head nodes)

/-- The same for consecutive spans, of which the last ends at `mid`. -/
inductive OverAll (bytes : ByteArray) : Nat → List Concrete → List Node → Nat → Prop
  | nil {pos} : OverAll bytes pos [] [] pos
  | cons {pos c cs n ns mid} (h : Over bytes pos c n) (hs : OverAll bytes c.stop cs ns mid) :
      OverAll bytes pos (c :: cs) (n :: ns) mid
end

variable {bytes : ByteArray} {source : String} {pos mid : Nat} {c : Concrete} {cs : List Concrete} {n : Node}
  {ns : List Node}

theorem Over.pos_le_start (h : Over bytes pos c n) : pos ≤ c.start := by
  match h with
  | .mk hpos _ _ _ _ => exact hpos

theorem Over.inv (h : Over bytes pos c n) : n.leading.toUTF8 = bytes.extract pos c.start ∧ ∃ mid,
    OverAll bytes c.start c.children n.children mid ∧ mid ≤ c.stop ∧
      (Node.closing n.head n.children).toUTF8 = bytes.extract mid c.stop := by
  match h with
  | .mk _ hleading hchildren hmid hclosing => exact ⟨hleading, _, hchildren, hmid, hclosing⟩

theorem OverAll.length_eq {pos cs ns mid} (h : OverAll bytes pos cs ns mid) : ns.length = cs.length := by
  match h with
  | .nil => rfl
  | .cons _ hs => exact congrArg (· + 1) (OverAll.length_eq hs)

mutual
theorem Over.start_le_stop {pos c n} (h : Over bytes pos c n) : c.start ≤ c.stop := by
  match h with
  | .mk _ _ hchildren hmid _ => exact Nat.le_trans (OverAll.le hchildren) hmid

theorem OverAll.le {pos cs ns mid} (h : OverAll bytes pos cs ns mid) : pos ≤ mid := by
  match h with
  | .nil => exact Nat.le_refl pos
  | .cons h hs => exact Nat.le_trans (Nat.le_trans h.pos_le_start (Over.start_le_stop h)) (OverAll.le hs)
end

theorem Over.pos_le_stop (h : Over bytes pos c n) : pos ≤ c.stop := Nat.le_trans h.pos_le_start h.start_le_stop

theorem OverAll.mid_eq {last : Concrete} (h : OverAll bytes pos cs ns mid) (hl : cs.getLast? = some last) :
    mid = last.stop := by
  induction cs generalizing pos ns with
  | nil => cases hl
  | cons c cs ih =>
      cases h with
      | cons h hs =>
          cases cs with
          | nil => cases hs; cases hl; rfl
          | cons d ds => exact ih hs (by rwa [List.getLast?_cons_cons] at hl)

/-! ## Printing -/

/-- Edits among the children of a node are edits of what the node prints. -/
theorem toUTF8_render_mk {head : Head} {ns : List Node} {pos start mid stop : Nat} {es : List Edit} (hpos : pos ≤ start)
    (hleading : head.leading.toUTF8 = bytes.extract pos start) (hw : Edit.Within start mid es)
    (hr : (Node.renderAll ns).toUTF8 = splice bytes start mid es) (hmid : mid ≤ stop)
    (hclosing : (Node.closing head ns).toUTF8 = bytes.extract mid stop) :
    Edit.Within pos stop es ∧ (Node.mk head ns).render.toUTF8 = splice bytes pos stop es := by
  have hend : Edit.Within mid stop [] := hmid
  have hwithin : Edit.Within start stop es := List.append_nil es ▸ hw.append hend
  refine ⟨hwithin.of_le hpos, ?_⟩
  calc (Node.mk head ns).render.toUTF8
      = head.leading.toUTF8 ++ ((Node.renderAll ns).toUTF8 ++ (Node.closing head ns).toUTF8) := by
        rw [Node.render_mk, toUTF8_append, toUTF8_append]
    _ = bytes.extract pos start ++ (splice bytes start mid es ++ splice bytes mid stop []) := by
        rw [hleading, hr, hclosing, splice]
    _ = splice bytes pos stop es := by rw [splice_append hw hend, List.append_nil, extract_splice hpos hwithin]

mutual
theorem Over.toUTF8_render {pos c n} (h : Over bytes pos c n) : n.render.toUTF8 = bytes.extract pos c.stop := by
  match h with
  | .mk hpos hleading hchildren hmid hclosing =>
      have hw : Edit.Within _ _ [] := hchildren.le
      exact (toUTF8_render_mk hpos hleading hw (OverAll.toUTF8_renderAll hchildren) hmid hclosing).2

theorem OverAll.toUTF8_renderAll {pos cs ns mid} (h : OverAll bytes pos cs ns mid) :
    (Node.renderAll ns).toUTF8 = bytes.extract pos mid := by
  match h with
  | .nil => exact ByteArray.extract_same.symm
  | @OverAll.cons _ _ c _ n ns _ h hs =>
      calc (n.render ++ Node.renderAll ns).toUTF8
          = n.render.toUTF8 ++ (Node.renderAll ns).toUTF8 := toUTF8_append _ _
        _ = bytes.extract pos c.stop ++ bytes.extract c.stop mid := by
            rw [Over.toUTF8_render h, OverAll.toUTF8_renderAll hs]
        _ = bytes.extract pos mid :=
            (ByteArray.extract_eq_extract_append_extract c.stop h.pos_le_stop hs.le).symm
end

theorem OverAll.toUTF8_sourceText {stop : Nat} (h : OverAll bytes pos cs n.children mid) (hmid : mid ≤ stop)
    (hclosing : (Node.closing n.head n.children).toUTF8 = bytes.extract mid stop) :
    n.sourceText.toUTF8 = bytes.extract pos stop := by
  obtain ⟨head, nodes⟩ := n
  rw [Node.sourceText_mk]
  calc (Node.renderAll nodes ++ Node.closing head nodes).toUTF8
      = (Node.renderAll nodes).toUTF8 ++ (Node.closing head nodes).toUTF8 := toUTF8_append _ _
    _ = bytes.extract pos mid ++ bytes.extract mid stop := congrArg₂ _ h.toUTF8_renderAll hclosing
    _ = bytes.extract pos stop := (ByteArray.extract_eq_extract_append_extract mid h.le hmid).symm

/-- Without the text in front of it, a node prints as its span. -/
theorem Over.toUTF8_sourceText (h : Over bytes pos c n) : n.sourceText.toUTF8 = bytes.extract c.start c.stop := by
  obtain ⟨_, mid, hchildren, hmid, hclosing⟩ := h.inv
  exact hchildren.toUTF8_sourceText hmid hclosing

/-! ## Building -/

theorem sliceTo_of_valid {stop : Nat} (hle : pos ≤ stop) (hp : String.Pos.Raw.IsValid source ⟨pos⟩)
    (hs : String.Pos.Raw.IsValid source ⟨stop⟩) :
    ∃ piece, sliceTo source.toUTF8 stop pos = some (piece, stop) ∧ piece.toUTF8 = source.toUTF8.extract pos stop := by
  have hp := (isValid_iff_not_inside hp.le_utf8ByteSize).mp hp
  have hs := (isValid_iff_not_inside hs.le_utf8ByteSize).mp hs
  rcases slice?_cases hp stop with ⟨hi, _⟩ | ⟨_, piece, hsome, hb⟩
  · rw [Nat.max_eq_right hle] at hi
    exact absurd hi hs
  · rw [Nat.max_eq_right hle] at hb
    exact ⟨piece, by rw [sliceTo, hsome, Option.map_some, Nat.max_eq_right hle], hb⟩

mutual
theorem build_over : (c : Concrete) → (pos : Nat) → (role : Option String) → c.WellNested source → pos ≤ c.start →
    String.Pos.Raw.IsValid source ⟨pos⟩ →
    ∃ n, c.build source.toUTF8 pos role = some (n, c.stop) ∧ Over source.toUTF8 pos c n
  | mk kind start stop named field children, pos, role, ⟨_, hstart, hstop, hc⟩, hpos, hp => by
      obtain ⟨leading, hl, hlb⟩ := sliceTo_of_valid (show pos ≤ start from hpos) hp hstart
      obtain ⟨nodes, mid, hb, ho, hm, hv⟩ := buildAll_over children start stop hc hstart
      obtain ⟨own, hs, hsb⟩ := sliceTo_of_valid hm hv hstop
      obtain ⟨head, he, rfl, rfl⟩ := assemble_eq kind named role leading nodes own
      have hsteps : andThen (andThen (sliceTo source.toUTF8 start pos) (buildAll source.toUTF8 · children))
          (sliceTo source.toUTF8 stop) = some (((head.leading, nodes), Node.closing head nodes), stop) :=
        andThen_some (andThen_some hl hb) hs
      refine ⟨.mk head nodes, ?_, .mk hpos hlb ho hm hsb⟩
      rw [build_mk, hsteps, Option.map_some, he]
      rfl

theorem buildAll_over : (cs : List Concrete) → (lo hi : Nat) → WellNestedAll source lo hi cs →
    String.Pos.Raw.IsValid source ⟨lo⟩ →
    ∃ ns mid, buildAll source.toUTF8 lo cs = some (ns, mid) ∧ OverAll source.toUTF8 lo cs ns mid ∧ mid ≤ hi ∧
      String.Pos.Raw.IsValid source ⟨mid⟩
  | [], lo, _, hle, hlo => ⟨[], lo, rfl, .nil, hle, hlo⟩
  | c :: cs, lo, hi, ⟨hle, hc, hcs⟩, hlo => by
      obtain ⟨n, hb, ho⟩ := build_over c lo c.field hc hle hlo
      obtain ⟨ns, mid, hbs, hos, hm, hv⟩ := buildAll_over cs c.stop hi hcs hc.stop_valid
      refine ⟨n :: ns, mid, ?_, .cons ho hos, hm, hv⟩
      have hsteps : andThen (c.build source.toUTF8 lo c.field) (buildAll source.toUTF8 · cs) = some ((n, ns), mid) :=
        andThen_some hb hbs
      rw [buildAll_cons, hsteps, Option.map_some]
end

/-- The tree of a whole source. The root also owns what follows its span. -/
theorem toNode?_over {root : Concrete} (h : root.WellNested source) : ∃ t mid,
    root.toNode? source = some t ∧ t.leading.toUTF8 = source.toUTF8.extract 0 root.start ∧
      OverAll source.toUTF8 root.start root.children t.children mid ∧ mid ≤ source.utf8ByteSize ∧
      (Node.closing t.head t.children).toUTF8 = source.toUTF8.extract mid source.utf8ByteSize := by
  have hle := h.stop_valid.le_utf8ByteSize
  obtain ⟨n, hb, ho⟩ := build_over root 0 none h (Nat.zero_le _) String.Pos.Raw.isValid_zero
  obtain ⟨rest, hs, hr⟩ := sliceTo_of_valid hle h.stop_valid (String.Pos.Raw.isValid_of_eq_rawEndPos rfl)
  have hsteps : andThen (root.build source.toUTF8 0 none) (sliceTo source.toUTF8 source.toUTF8.size) =
      some ((n, rest), source.utf8ByteSize) := andThen_some hb hs
  cases ho with
  | @mk _ _ start stop _ _ _ head nodes mid _ hleading hchildren hmid hclosing =>
      refine ⟨.mk { head with trailing := head.trailing ++ rest } nodes, mid, ?_, hleading, hchildren,
        Nat.le_trans hmid hle, ?_⟩
      · rw [toNode?_eq, hsteps]
        rfl
      · rw [Node.head_mk, Node.children_mk, Node.closing_addTrailing]
        calc (Node.closing head nodes ++ rest).toUTF8
            = (Node.closing head nodes).toUTF8 ++ rest.toUTF8 := toUTF8_append _ _
          _ = source.toUTF8.extract mid stop ++ source.toUTF8.extract stop source.utf8ByteSize :=
              congrArg₂ _ hclosing hr
          _ = source.toUTF8.extract mid source.utf8ByteSize :=
              (ByteArray.extract_eq_extract_append_extract stop hmid hle).symm

end Concrete

end AttrHoist
