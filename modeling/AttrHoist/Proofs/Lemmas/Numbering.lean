import AttrHoist.Registry
import Mathlib.Data.List.Nodup

/-!
# Names by number

The entries of a registry are numbered from zero on without gaps, and a name is the stem with such a number, so that no
two are alike.
-/

namespace AttrHoist

theorem numbered_injective (stem : String) : Function.Injective fun i : Nat => stem ++ toString i := by
  intro i j h
  rw [String.append_right_inj] at h
  -- a number can be read back from its digits
  have hdigits : Nat.toDigits 10 i = Nat.toDigits 10 j := by
    rw [← Nat.toList_repr, ← Nat.toList_repr]
    exact congrArg String.toList h
  rw [← Nat.ofDigitChars_ten_toDigits (n := i), hdigits, Nat.ofDigitChars_ten_toDigits]

namespace Registry
variable {α : Type}

/-- Each entry is numbered and named by its position. -/
def Dense (r : Registry α) : Prop :=
  ∀ (i : Nat) (e : Entry α), r.entries[i]? = some e → e.index = i ∧ e.name = r.stem ++ toString i

theorem dense_empty (stem : String) : ({ stem } : Registry α).Dense := fun i e h => by
  rw [List.getElem?_nil] at h
  cases h

theorem Dense.add {r : Registry α} (h : r.Dense) (a : α) : (r.add a).Dense := by
  intro i e he
  by_cases hi : i < r.entries.length
  · rw [Registry.add, List.getElem?_append_left hi] at he
    exact h i e he
  · rw [Registry.add, List.getElem?_append_right (Nat.le_of_not_lt hi)] at he
    obtain ⟨hlt, rfl⟩ := List.getElem?_eq_some_iff.mp he
    have hlast : i = r.entries.length := by rw [List.length_singleton] at hlt; omega
    subst hlast
    simp [nextName, size, Registry.add]

theorem Dense.names {r : Registry α} (h : r.Dense) :
    r.entries.map Entry.name = (List.range r.size).map fun i => r.stem ++ toString i := by
  refine List.ext_getElem? fun i => ?_
  rw [List.getElem?_map, List.getElem?_map, size]
  by_cases hi : i < r.entries.length
  · rw [List.getElem?_eq_getElem hi, List.getElem?_range hi, Option.map_some, Option.map_some,
      (h i _ (List.getElem?_eq_getElem hi)).2]
  · have hn : r.entries.length ≤ i := Nat.le_of_not_lt hi
    rw [List.getElem?_eq_none hn, List.getElem?_eq_none (by rwa [List.length_range])]
    rfl

theorem Dense.nodup_names {r : Registry α} (h : r.Dense) : (r.entries.map Entry.name).Nodup := by
  rw [h.names]
  exact List.nodup_range.map (numbered_injective r.stem)

end Registry

end AttrHoist
