import AttrHoist.Tree.Concrete
import AttrHoist.Tree.Print

/-!
# Pieces of text

Where a text may be cut when positions count bytes, and which pieces printing puts together.
-/

namespace AttrHoist

/-! ## Positions inside characters -/

/-- Whether a byte position of a text lies inside one of its characters: past its first byte and not yet past its
last. -/
def InsideCharacter (text : String) (p : Nat) : Prop :=
  ∃ front c back, text.toList = front ++ c :: back ∧
    (String.ofList front).utf8ByteSize < p ∧ p < (String.ofList (front ++ [c])).utf8ByteSize

theorem utf8ByteSize_ofList_append (cs ds : List Char) :
    (String.ofList (cs ++ ds)).utf8ByteSize = (String.ofList cs).utf8ByteSize + (String.ofList ds).utf8ByteSize := by
  rw [String.ofList_append, String.utf8ByteSize_append]

theorem InsideCharacter.lt_size {text : String} {p : Nat} (h : InsideCharacter text p) : p < text.utf8ByteSize := by
  obtain ⟨front, c, back, ht, _, hp⟩ := h
  have hs := utf8ByteSize_ofList_append (front ++ [c]) back
  rw [List.append_assoc, List.singleton_append, ← ht, String.ofList_toList] at hs
  omega

theorem isValid_iff {text : String} {p : Nat} :
    String.Pos.Raw.IsValid text ⟨p⟩ ↔
      ∃ front back, text.toList = front ++ back ∧ p = (String.ofList front).utf8ByteSize := by
  rw [String.Pos.Raw.isValid_iff_exists_take_toList]
  constructor
  · rintro ⟨i, hi⟩
    exact ⟨_, _, (List.take_append_drop i text.toList).symm, hi⟩
  · rintro ⟨front, back, ht, hp⟩
    exact ⟨front.length, by rw [ht, List.take_left]; exact hp⟩

theorem boundary_or_inside (cs : List Char) {p : Nat} (hp : p ≤ (String.ofList cs).utf8ByteSize) :
    (∃ front back, cs = front ++ back ∧ p = (String.ofList front).utf8ByteSize) ∨
      ∃ front c back, cs = front ++ c :: back ∧
        (String.ofList front).utf8ByteSize < p ∧ p < (String.ofList (front ++ [c])).utf8ByteSize := by
  induction cs generalizing p with
  | nil => exact Or.inl ⟨[], [], rfl, by simpa using hp⟩
  | cons c cs ih =>
      have hc := utf8ByteSize_ofList_append [c]
      rw [← List.singleton_append, hc] at hp
      by_cases h0 : p = 0
      · exact Or.inl ⟨[], c :: cs, rfl, by simpa using h0⟩
      by_cases hlt : p < (String.ofList [c]).utf8ByteSize
      · exact Or.inr ⟨[], c, cs, rfl, by simpa using Nat.pos_of_ne_zero h0, hlt⟩
      · rcases ih (p := p - (String.ofList [c]).utf8ByteSize) (by omega) with
          ⟨front, back, rfl, h⟩ | ⟨front, d, back, rfl, h, h'⟩
        · refine Or.inl ⟨c :: front, back, rfl, ?_⟩
          rw [← List.singleton_append, hc]
          omega
        · refine Or.inr ⟨c :: front, d, back, rfl, ?_, ?_⟩
          · rw [← List.singleton_append, hc]
            omega
          · rw [List.cons_append, ← List.singleton_append, hc]
            omega

theorem isValid_iff_not_inside {text : String} {p : Nat} (hp : p ≤ text.utf8ByteSize) :
    String.Pos.Raw.IsValid text ⟨p⟩ ↔ ¬ InsideCharacter text p := by
  constructor
  · intro hv
    obtain ⟨front, back, ht, rfl⟩ := isValid_iff.mp hv
    rintro ⟨front', c, back', ht', hlt, hlt'⟩
    rw [ht'] at ht
    -- one of the two prefixes continues the other
    rcases List.append_eq_append_iff.mp ht with ⟨mid, rfl, h⟩ | ⟨mid, rfl, _⟩
    · cases mid with
      | nil => simp at hlt
      | cons d mid =>
          cases h
          have hs := utf8ByteSize_ofList_append (front' ++ [c]) mid
          rw [List.append_assoc, List.singleton_append] at hs
          omega
    · have hs := utf8ByteSize_ofList_append front mid
      omega
  · intro hi
    rcases boundary_or_inside text.toList (p := p) (by rwa [String.ofList_toList]) with h | h
    · exact isValid_iff.mpr h
    · exact absurd h hi

/-! ## Cutting -/

theorem toUTF8_append (s t : String) : (s ++ t).toUTF8 = s.toUTF8 ++ t.toUTF8 := String.toByteArray_append

theorem not_inside_of_size_le {text : String} {p : Nat} (h : text.utf8ByteSize ≤ p) : ¬ InsideCharacter text p :=
  fun hi => absurd hi.lt_size (Nat.not_lt.mpr h)

theorem fromUTF8?_of_valid {bytes : ByteArray} (h : bytes.IsValidUTF8) :
    ∃ piece, String.fromUTF8? bytes = some piece ∧ piece.toUTF8 = bytes :=
  ⟨String.fromUTF8 bytes h, dif_pos h, rfl⟩

theorem extract_valid_iff {text : String} {pos stop : Nat} (hp : ¬ InsideCharacter text pos) (hlt : pos < stop) :
    (text.toUTF8.extract pos stop).IsValidUTF8 ↔ ¬ InsideCharacter text stop := by
  by_cases hpos : text.utf8ByteSize ≤ pos
  · have he : text.toUTF8.extract pos stop = ByteArray.empty :=
      ByteArray.extract_eq_empty_iff.mpr (Nat.le_trans (Nat.min_le_right _ _) hpos)
    rw [he]
    exact iff_of_true ByteArray.isValidUTF8_empty (not_inside_of_size_le (by omega))
  have hv := (isValid_iff_not_inside (by omega)).mpr hp
  by_cases hstop : stop ≤ text.utf8ByteSize
  · rw [← isValid_iff_not_inside hstop]
    have h := String.Pos.Raw.isValidUTF8_extract_iff (s := text) ⟨pos⟩ ⟨stop⟩ (Nat.le_of_lt hlt) hstop
    refine h.trans ⟨?_, fun h => Or.inr ⟨hv, h⟩⟩
    rintro (h | h)
    · exact absurd (congrArg String.Pos.Raw.byteIdx h) (Nat.ne_of_lt hlt)
    · exact h.2
  · -- positions past the end cut at the end
    have hend : text.toUTF8.extract text.utf8ByteSize stop = ByteArray.empty :=
      ByteArray.extract_eq_empty_iff.mpr (Nat.min_le_right _ _)
    rw [ByteArray.extract_eq_extract_append_extract text.utf8ByteSize (by omega) (by omega), hend,
      ByteArray.append_empty]
    refine iff_of_true ?_ (not_inside_of_size_le (by omega))
    exact (String.Pos.Raw.isValid_iff_isValidUTF8_extract_utf8ByteSize.mp hv).2

/-- From a position between characters, the piece up to another position is there unless that position lies ahead
and inside a character. -/
theorem slice?_cases {source : String} {pos : Nat} (hp : ¬ InsideCharacter source pos) (stop : Nat) :
    (InsideCharacter source (max pos stop) ∧ slice? source.toUTF8 pos stop = none) ∨
      (¬ InsideCharacter source (max pos stop) ∧ ∃ piece, slice? source.toUTF8 pos stop = some piece ∧
        piece.toUTF8 = source.toUTF8.extract pos (max pos stop)) := by
  unfold slice?
  by_cases hle : stop ≤ pos
  · rw [if_pos hle, Nat.max_eq_left hle]
    exact Or.inr ⟨hp, "", rfl, ByteArray.extract_same.symm⟩
  rw [if_neg hle, Nat.max_eq_right (by omega)]
  have hv := extract_valid_iff hp (Nat.not_le.mp hle)
  by_cases hi : InsideCharacter source stop
  · exact Or.inl ⟨hi, dif_neg fun h => hv.mp h hi⟩
  · exact Or.inr ⟨hi, fromUTF8?_of_valid (hv.mpr hi)⟩

/-! ## Printing -/

namespace Node

/-- The text of a node after its children, or all of it if it has none. -/
def closing (h : Head) (cs : List Node) : String := if cs.isEmpty then h.text ++ h.trailing else h.trailing

theorem render_mk (h : Head) (cs : List Node) : (mk h cs).render = h.leading ++ (renderAll cs ++ closing h cs) := by
  cases cs with
  | nil => simp [render, renderAll, closing, String.append_assoc]
  | cons c cs => simp [render, renderAll, closing, String.append_assoc]

theorem renderAll_append (cs ds : List Node) : renderAll (cs ++ ds) = renderAll cs ++ renderAll ds := by
  induction cs with
  | nil => simp [renderAll]
  | cons c cs ih => rw [List.cons_append, renderAll, renderAll, ih, String.append_assoc]

theorem renderAll_eq_join (ns : List Node) : renderAll ns = String.join (ns.map render) := by
  induction ns with
  | nil => rfl
  | cons n ns ih => rw [renderAll, ih, List.map_cons, String.join_cons]

theorem closing_congr {h : Head} {ns ms : List Node} (he : ns = [] ↔ ms = []) :
    closing h ns = closing h ms := by
  have hb : ns.isEmpty = ms.isEmpty := Bool.eq_iff_iff.mpr (by rw [List.isEmpty_iff, List.isEmpty_iff, he])
  rw [closing, closing, hb]

theorem closing_addTrailing (h : Head) (cs : List Node) (rest : String) :
    closing { h with trailing := h.trailing ++ rest } cs = closing h cs ++ rest := by
  cases cs with
  | nil => exact String.append_assoc.symm
  | cons c cs => rfl

/-- Text added at the end of the root is printed last. -/
theorem render_addTrailing (n : Node) (rest : String) :
    (n.mapHead fun h => { h with trailing := h.trailing ++ rest }).render = n.render ++ rest := by
  obtain ⟨h, cs⟩ := n
  rw [mapHead, render_mk, render_mk, closing_addTrailing, ← String.append_assoc, ← String.append_assoc,
    ← String.append_assoc]

/-- The text of a tree without the text in front of it. -/
theorem sourceText_mk (h : Head) (cs : List Node) : (mk h cs).sourceText = renderAll cs ++ closing h cs := by
  rw [sourceText, render_mk, String.toList_append, leading, head_mk, ← String.length_toList, List.drop_left,
    String.ofList_toList]

end Node

/-! ## Building as a chain of steps -/

/-- One step after the other, the second where the first ended. -/
def andThen {α β : Type} (first : Option (α × Nat)) (second : Nat → Option (β × Nat)) : Option ((α × β) × Nat) :=
  first.bind fun a => (second a.2).map fun b => ((a.1, b.1), b.2)

theorem andThen_some {α β : Type} {first : Option (α × Nat)} {second : Nat → Option (β × Nat)} {a : α} {b : β}
    {p q : Nat} (h : first = some (a, p)) (h' : second p = some (b, q)) : andThen first second = some ((a, b), q) := by
  rw [andThen, h, Option.bind_some, h', Option.map_some]

theorem andThen_inv {α β : Type} {first : Option (α × Nat)} {second : Nat → Option (β × Nat)} {a : α} {b : β} {q : Nat}
    (h : andThen first second = some ((a, b), q)) : ∃ p, first = some (a, p) ∧ second p = some (b, q) := by
  obtain ⟨⟨a', p⟩, hfirst, h⟩ := Option.bind_eq_some_iff.mp h
  obtain ⟨⟨b', q'⟩, hsecond, he⟩ := Option.map_eq_some_iff.mp h
  cases he
  exact ⟨p, hfirst, hsecond⟩

/-- The step that takes the text up to a position. -/
def sliceTo (bytes : ByteArray) (stop pos : Nat) : Option (String × Nat) :=
  (slice? bytes pos stop).map fun piece => (piece, max pos stop)

namespace Concrete

/-- The node of a span from its leading text, its children and what is left at its end. -/
def assemble (kind : Kind) (named : Bool) (role : Option String) (parts : (String × List Node) × String) : Node :=
  let head : Head := { kind, named, field := role, leading := parts.1.1 }
  .mk (if parts.1.2.isEmpty then { head with text := parts.2 } else { head with trailing := parts.2 }) parts.1.2

theorem assemble_eq (kind : Kind) (named : Bool) (role : Option String) (leading : String) (nodes : List Node)
    (own : String) : ∃ head : Head, assemble kind named role ((leading, nodes), own) = .mk head nodes ∧
      head.leading = leading ∧ Node.closing head nodes = own := by
  cases nodes with
  | nil => exact ⟨_, rfl, rfl, String.append_empty⟩
  | cons n ns => exact ⟨_, rfl, rfl, rfl⟩

theorem render_assemble (kind : Kind) (named : Bool) (role : Option String) (parts : (String × List Node) × String) :
    (assemble kind named role parts).render = (parts.1.1 ++ Node.renderAll parts.1.2) ++ parts.2 := by
  obtain ⟨⟨leading, nodes⟩, own⟩ := parts
  obtain ⟨head, he, rfl, rfl⟩ := assemble_eq kind named role leading nodes own
  rw [he, Node.render_mk, String.append_assoc]

theorem build_mk (bytes : ByteArray) (pos : Nat) (role : Option String) (kind : Kind) (start stop : Nat) (named : Bool)
    (field : Option String) (children : List Concrete) :
    (mk kind start stop named field children).build bytes pos role =
      (andThen (andThen (sliceTo bytes start pos) (buildAll bytes · children)) (sliceTo bytes stop)).map
        fun p => (assemble kind named role p.1, p.2) := by
  rw [build, sliceTo]
  cases slice? bytes pos start with
  | none => rfl
  | some leading =>
      simp only [Option.map_some, andThen, Option.bind_some]
      cases buildAll bytes (max pos start) children with
      | none => rfl
      | some p =>
          obtain ⟨nodes, mid⟩ := p
          simp only [Option.map_some, Option.bind_some, sliceTo]
          cases h : slice? bytes mid stop with
          | none => simp [h]
          | some own => simp [h, assemble]

theorem buildAll_cons (bytes : ByteArray) (pos : Nat) (c : Concrete) (cs : List Concrete) :
    buildAll bytes pos (c :: cs) =
      (andThen (c.build bytes pos c.field) (buildAll bytes · cs)).map fun p => (p.1.1 :: p.1.2, p.2) := by
  rw [buildAll]
  cases c.build bytes pos c.field with
  | none => rfl
  | some p =>
      obtain ⟨node, mid⟩ := p
      cases h : buildAll bytes mid cs with
      | none => simp [andThen, h]
      | some q => simp [andThen, h]

theorem toNode?_eq (root : Concrete) (source : String) :
    root.toNode? source = (andThen (root.build source.toUTF8 0 none) (sliceTo source.toUTF8 source.toUTF8.size)).map
      fun p => p.1.1.mapHead fun h => { h with trailing := h.trailing ++ p.1.2 } := by
  rw [toNode?]
  generalize source.toUTF8 = bytes
  cases root.build bytes 0 none with
  | none => rfl
  | some p =>
      obtain ⟨node, mid⟩ := p
      cases h : slice? bytes mid bytes.size with
      | none => simp [andThen, sliceTo, h]
      | some rest => simp [andThen, sliceTo, h]

end Concrete

end AttrHoist
