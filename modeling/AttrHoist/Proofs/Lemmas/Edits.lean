import AttrHoist.Tree.Walk

/-!
# Edits of a byte sequence

Replacements at spans that follow one another, all given by positions in the original.
-/

namespace AttrHoist

/-- A span of bytes and what takes its place. An empty span is a place to insert at. -/
structure Edit where
  start : Nat
  stop : Nat
  text : ByteArray

namespace Edit

def removed (e : Edit) : Nat := e.stop - e.start

def added (e : Edit) : Nat := e.text.size

/-- Whether edits stand in order between two positions, none overlapping another. -/
def Within : Nat → Nat → List Edit → Prop
  | lo, hi, [] => lo ≤ hi
  | lo, hi, e :: es => lo ≤ e.start ∧ e.start ≤ e.stop ∧ Within e.stop hi es

variable {lo mid hi : Nat} {e : Edit} {es ds : List Edit}

theorem Within.le (h : Within lo hi es) : lo ≤ hi := by
  induction es generalizing lo with
  | nil => exact h
  | cons e es ih => exact Nat.le_trans h.1 (Nat.le_trans h.2.1 (ih h.2.2))

theorem Within.stop_le (h : Within lo hi es) (he : e ∈ es) : e.stop ≤ hi := by
  induction es generalizing lo with
  | nil => cases he
  | cons d es ih =>
      rcases List.mem_cons.mp he with rfl | he
      · exact h.2.2.le
      · exact ih h.2.2 he

theorem Within.of_le (h : Within mid hi es) (hle : lo ≤ mid) : Within lo hi es := by
  cases es with
  | nil => exact Nat.le_trans hle h
  | cons e es => exact ⟨Nat.le_trans hle h.1, h.2⟩

theorem Within.append (h : Within lo mid es) (h' : Within mid hi ds) : Within lo hi (es ++ ds) := by
  induction es generalizing lo with
  | nil => exact h'.of_le h
  | cons e es ih => exact ⟨h.1, h.2.1, ih h.2.2⟩

end Edit

/-- The bytes from one position up to another with edits made on the way. -/
def splice (bytes : ByteArray) : Nat → Nat → List Edit → ByteArray
  | pos, stop, [] => bytes.extract pos stop
  | pos, stop, e :: es => bytes.extract pos e.start ++ e.text ++ splice bytes e.stop stop es

variable {bytes : ByteArray} {pos mid stop : Nat} {es ds : List Edit}

theorem extract_splice (hle : pos ≤ mid) (h : Edit.Within mid stop es) :
    bytes.extract pos mid ++ splice bytes mid stop es = splice bytes pos stop es := by
  cases es with
  | nil => exact (ByteArray.extract_eq_extract_append_extract mid hle h).symm
  | cons e es =>
      rw [splice, splice, ← ByteArray.append_assoc, ← ByteArray.append_assoc,
        ← ByteArray.extract_eq_extract_append_extract mid hle h.1]

/-- Edits up to a position and edits from there on are made independently. -/
theorem splice_append (h : Edit.Within pos mid es) (h' : Edit.Within mid stop ds) :
    splice bytes pos mid es ++ splice bytes mid stop ds = splice bytes pos stop (es ++ ds) := by
  induction es generalizing pos with
  | nil => exact extract_splice h h'
  | cons e es ih => rw [List.cons_append, splice, splice, ByteArray.append_assoc, ih h.2.2]

/-- What edits take away and what they bring in make up the difference in size. -/
theorem size_splice (h : Edit.Within pos stop es) (hs : stop ≤ bytes.size) :
    (splice bytes pos stop es).size + total Edit.removed es = stop - pos + total Edit.added es := by
  induction es generalizing pos with
  | nil => rw [splice, ByteArray.size_extract, Nat.min_eq_left hs, total, total]
  | cons e es ih =>
      have hle := h.2.2.le
      have hrest := ih h.2.2
      have hfront : (bytes.extract pos e.start).size = e.start - pos := by
        rw [ByteArray.size_extract, Nat.min_eq_left (Nat.le_trans h.2.1 (Nat.le_trans hle hs))]
      have hle' := h.1
      have hle'' := h.2.1
      rw [splice, ByteArray.size_append, ByteArray.size_append, hfront, total, total, Edit.removed, Edit.added]
      omega

end AttrHoist
