import AttrHoist.Proofs.Lemmas.Pieces

/-!
# Building loses nothing

Whatever positions a grammar reports, the tree built from them prints as the source, unless the source would have to
be cut inside a character. This depends only on the running maximum of the positions in the order in which they are
met.
-/

namespace AttrHoist

namespace Concrete

mutual
/-- The positions of a span and of the spans in it in the order in which they are met: its start, then what lies in
it, then its end. -/
def offsets : Concrete → List Nat
  | mk _ start stop _ _ children => start :: (offsetsAll children ++ [stop])

/-- The positions of consecutive spans. -/
def offsetsAll : List Concrete → List Nat
  | [] => []
  | c :: cs => c.offsets ++ offsetsAll cs
end

/-- The values that the running maximum of the positions takes, from 0 on. -/
def marks (root : Concrete) : List Nat := root.offsets.scanl max 0

end Concrete

/-! ## Positions that can be passed -/

/-- From `pos` on, the running maximum of the positions never falls inside a character. -/
def Passable (source : String) (pos : Nat) (xs : List Nat) : Prop :=
  ∀ h ∈ xs.scanl max pos, ¬ InsideCharacter source h

variable {source : String} {pos x : Nat} {xs ys : List Nat}

theorem passable_nil : Passable source pos [] ↔ ¬ InsideCharacter source pos := by
  simp [Passable]

theorem passable_cons :
    Passable source pos (x :: xs) ↔ ¬ InsideCharacter source pos ∧ Passable source (max pos x) xs := by
  simp [Passable]

theorem passable_append :
    Passable source pos (xs ++ ys) ↔ Passable source pos xs ∧ Passable source (xs.foldl max pos) ys := by
  induction xs generalizing pos with
  | nil =>
      rw [List.nil_append, passable_nil, List.foldl_nil]
      refine ⟨fun h => ⟨?_, h⟩, fun h => h.2⟩
      cases ys with
      | nil => exact passable_nil.mp h
      | cons y ys => exact (passable_cons.mp h).1
  | cons x xs ih => rw [List.cons_append, passable_cons, passable_cons, ih, List.foldl_cons, and_assoc]

theorem Passable.not_inside (h : Passable source pos xs) : ¬ InsideCharacter source (xs.foldl max pos) := by
  rw [← List.append_nil xs, passable_append, passable_nil] at h
  exact h.2

theorem le_foldl_max (xs : List Nat) (pos : Nat) : pos ≤ xs.foldl max pos := by
  induction xs generalizing pos with
  | nil => exact Nat.le_refl pos
  | cons x xs ih => exact Nat.le_trans (Nat.le_max_left pos x) (ih (max pos x))

/-! ## Steps that use up a source -/

/-- What a step comes to that starts at `pos` and meets `xs`: nothing if their running maximum falls inside a
character; otherwise it ends at the maximum, and its result prints as the source up to there. -/
def Outcome {α : Type} (source : String) (pos : Nat) (xs : List Nat) (print : α → String)
    (result : Option (α × Nat)) : Prop :=
  ¬ Passable source pos xs ∧ result = none ∨
    Passable source pos xs ∧ ∃ a, result = some (a, xs.foldl max pos) ∧
      (print a).toUTF8 = source.toUTF8.extract pos (xs.foldl max pos)

section
variable {α β : Type} {print : α → String} {print' : β → String}

theorem sliceTo_outcome (hp : ¬ InsideCharacter source pos) (stop : Nat) :
    Outcome source pos [stop] id (sliceTo source.toUTF8 stop pos) := by
  rw [Outcome, passable_cons, passable_nil, List.foldl_cons, List.foldl_nil, sliceTo]
  rcases slice?_cases hp stop with ⟨hi, hs⟩ | ⟨hi, piece, hs, hb⟩
  · exact Or.inl ⟨fun h => h.2 hi, by rw [hs, Option.map_none]⟩
  · exact Or.inr ⟨⟨hp, hi⟩, piece, by rw [hs, Option.map_some], hb⟩

theorem Outcome.andThen {first : Option (α × Nat)} {second : Nat → Option (β × Nat)}
    (h : Outcome source pos xs print first)
    (h' : ∀ p, ¬ InsideCharacter source p → Outcome source p ys print' (second p)) :
    Outcome source pos (xs ++ ys) (fun p => print p.1 ++ print' p.2) (andThen first second) := by
  rw [Outcome, passable_append, List.foldl_append]
  rcases h with ⟨hno, rfl⟩ | ⟨hpass, a, rfl, ha⟩
  · exact Or.inl ⟨fun h => hno h.1, rfl⟩
  rcases h' _ hpass.not_inside with ⟨hno, hr⟩ | ⟨hpass', b, hr, hb⟩
  · exact Or.inl ⟨fun h => hno h.2, by simp only [AttrHoist.andThen, Option.bind_some, hr, Option.map_none]⟩
  · refine Or.inr ⟨⟨hpass, hpass'⟩, (a, b), by simp only [AttrHoist.andThen, Option.bind_some, hr, Option.map_some], ?_⟩
    calc (print a ++ print' b).toUTF8
        = (print a).toUTF8 ++ (print' b).toUTF8 := toUTF8_append _ _
      _ = source.toUTF8.extract pos (xs.foldl max pos) ++
            source.toUTF8.extract (xs.foldl max pos) (ys.foldl max (xs.foldl max pos)) := by rw [ha, hb]
      _ = source.toUTF8.extract pos (ys.foldl max (xs.foldl max pos)) :=
        (ByteArray.extract_eq_extract_append_extract _ (le_foldl_max xs pos) (le_foldl_max ys _)).symm

theorem Outcome.map {result : Option (α × Nat)} (h : Outcome source pos xs print result) (f : α → β)
    (hf : ∀ a, print' (f a) = print a) :
    Outcome source pos xs print' (result.map fun a => (f a.1, a.2)) := by
  rcases h with ⟨hno, rfl⟩ | ⟨hpass, a, rfl, ha⟩
  · exact Or.inl ⟨hno, rfl⟩
  · exact Or.inr ⟨hpass, f a, rfl, by rw [hf, ha]⟩

end

/-! ## Building -/

namespace Concrete

mutual
theorem build_outcome : (c : Concrete) → (pos : Nat) → (role : Option String) → ¬ InsideCharacter source pos →
    Outcome source pos c.offsets Node.render (c.build source.toUTF8 pos role)
  | mk kind start stop named field children, pos, role, hp => by
      have h := ((sliceTo_outcome hp start).andThen fun p hp => buildAll_outcome children p hp).andThen
        fun p hp => sliceTo_outcome hp stop
      rw [build_mk]
      exact h.map (assemble kind named role) (render_assemble kind named role)

theorem buildAll_outcome : (cs : List Concrete) → (pos : Nat) → ¬ InsideCharacter source pos →
    Outcome source pos (offsetsAll cs) Node.renderAll (buildAll source.toUTF8 pos cs)
  | [], pos, hp => Or.inr ⟨passable_nil.mpr hp, [], rfl, ByteArray.extract_same.symm⟩
  | c :: cs, pos, hp => by
      have h := (build_outcome c pos c.field hp).andThen fun p hp => buildAll_outcome cs p hp
      rw [buildAll_cons]
      exact h.map (fun p => p.1 :: p.2) fun _ => rfl
end

/-! ## Whole sources -/

theorem not_inside_zero (source : String) : ¬ InsideCharacter source 0 := by
  rintro ⟨_, _, _, _, h, _⟩
  exact absurd h (Nat.not_lt_zero _)

theorem toNode?_cases (root : Concrete) (source : String) :
    ¬ Passable source 0 root.offsets ∧ root.toNode? source = none ∨
      Passable source 0 root.offsets ∧ ∃ t, root.toNode? source = some t ∧ t.render = source := by
  have h := (build_outcome root 0 none (not_inside_zero source)).andThen
    fun p hp => sliceTo_outcome hp source.toUTF8.size
  -- the last step goes to the end of the source, which is never inside a character
  have hend : Passable source 0 (root.offsets ++ [source.toUTF8.size]) ↔ Passable source 0 root.offsets := by
    rw [passable_append, passable_cons, passable_nil]
    refine ⟨And.left, fun h => ⟨h, h.not_inside, not_inside_of_size_le (Nat.le_max_right _ _)⟩⟩
  rw [toNode?_eq, ← hend]
  rcases h with ⟨hno, hr⟩ | ⟨hpass, ⟨n, rest⟩, hr, hn⟩
  · exact Or.inl ⟨hno, by rw [hr, Option.map_none]⟩
  · refine Or.inr ⟨hpass, _, by rw [hr, Option.map_some], ?_⟩
    rw [Node.render_addTrailing, ← String.toByteArray_inj]
    refine hn.trans ?_
    rw [List.foldl_append, List.foldl_cons, List.foldl_nil]
    exact ByteArray.extract_zero_max_size

/-- Building a tree from spans with any positions fails exactly when a value of their running maximum lies before the
end of the source and inside a character; otherwise it gives a tree that prints as the source. -/
theorem render_of_build (root : Concrete) (source : String) :
    (root.toNode? source = none ↔ ∃ h ∈ root.marks, h < source.utf8ByteSize ∧ InsideCharacter source h) ∧
      ∀ t, root.toNode? source = some t → t.render = source := by
  have hmarks : ¬ Passable source 0 root.offsets ↔
      ∃ h ∈ root.marks, h < source.utf8ByteSize ∧ InsideCharacter source h := by
    simp only [Passable, marks, Classical.not_forall, Classical.not_not, exists_prop]
    exact exists_congr fun h => and_congr_right fun _ => ⟨fun hi => ⟨hi.lt_size, hi⟩, And.right⟩
  rw [← hmarks]
  rcases root.toNode?_cases source with ⟨hno, hr⟩ | ⟨hpass, t, hr, ht⟩
  · rw [hr]
    exact ⟨iff_of_true rfl hno, fun t h => by cases h⟩
  · rw [hr]
    refine ⟨iff_of_false (by simp) (fun h => h hpass), fun u hu => ?_⟩
    cases hu
    exact ht

end Concrete

namespace Sample

/-- A span of the text `aé` that starts inside the second character, after other spans. -/
def cutting (before : List Concrete) : Concrete :=
  .mk Kind.program 0 3 true none (before ++ [.mk Kind.identifier 2 3 true none []])

/-- The span cuts the character, unless one in front of it has used the character up. -/
theorem cutting_build : (cutting []).toNode? "aé" = none ∧
    ∃ t, (cutting [.mk Kind.comment 5 1 true none []]).toNode? "aé" = some t ∧ t.render = "aé" := by
  have hsome : ((cutting [.mk Kind.comment 5 1 true none []]).toNode? "aé").isSome = true := by decide +kernel
  obtain ⟨t, ht⟩ := Option.isSome_iff_exists.mp hsome
  refine ⟨(Concrete.render_of_build (cutting []) "aé").1.mpr ⟨2, ?_, ?_⟩, t, ht, (Concrete.render_of_build _ _).2 t ht⟩
  · decide
  · exact ⟨by decide, ['a'], 'é', [], rfl, by decide, by decide⟩

end Sample

end AttrHoist
