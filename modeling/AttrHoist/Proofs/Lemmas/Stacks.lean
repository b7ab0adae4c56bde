import AttrHoist.Tree.Walk
import Mathlib.Logic.Function.Iterate

/-!
# Loops over a stack

A loop takes the top of a stack, gives something out for it and puts other nodes in its place. The turns are written
without any bound on their number; they come to an empty stack all the same where what is put on the stack is smaller
than what was taken from it.
-/

namespace AttrHoist

theorem total_reverse {α : Type} (weight : α → Nat) (as : List α) : total weight as.reverse = total weight as := by
  induction as with
  | nil => rfl
  | cons a as ih =>
      rw [List.reverse_cons, total_append, ih, total, total, total]
      omega

/-- A state of a loop: the stack, its top last, and what has been given out. -/
structure Loop (α : Type) where
  stack : List Node
  output : List α

namespace Loop

/-- The state before the first turn. -/
def start {α : Type} (n : Node) : Loop α := ⟨[n], []⟩

variable {α : Type} (push : Node → List Node) (emit : Node → List α)

/-- One turn, which does nothing once the stack is empty. -/
def turn (s : Loop α) : Loop α :=
  match s.stack.getLast? with
  | none => s
  | some n => ⟨s.stack.dropLast ++ push n, s.output ++ emit n⟩

/-- All that a turn can do. -/
theorem turn_cases (s : Loop α) : s.stack = [] ∧ turn push emit s = s ∨
    ∃ rest n, s = ⟨rest ++ [n], s.output⟩ ∧ turn push emit s = ⟨rest ++ push n, s.output ++ emit n⟩ := by
  obtain ⟨stack, output⟩ := s
  rcases List.eq_nil_or_concat stack with rfl | ⟨rest, n, rfl⟩
  · exact Or.inl ⟨rfl, rfl⟩
  · refine Or.inr ⟨rest, n, by rw [List.concat_eq_append], ?_⟩
    rw [turn, List.concat_eq_append, List.getLast?_concat, List.dropLast_concat]

variable {push emit}

/-- What one turn keeps, any number of turns keeps. -/
theorem iterate_turn {motive : Loop α → Prop}
    (step : ∀ rest n output, motive ⟨rest ++ [n], output⟩ → motive ⟨rest ++ push n, output ++ emit n⟩)
    {s : Loop α} (h : motive s) (k : Nat) : motive ((turn push emit)^[k] s) := by
  induction k generalizing s with
  | zero => exact h
  | succ k ih =>
      rw [Function.iterate_succ_apply]
      apply ih
      rcases turn_cases push emit s with ⟨_, ht⟩ | ⟨rest, n, hs, ht⟩
      · rwa [ht]
      · rw [hs] at h
        rw [ht]
        exact step rest n s.output h

/-- The weight of the stack goes down with every turn, so it bounds their number. -/
theorem stack_iterate_turn (hpush : ∀ n, total Node.size (push n) < n.size) {s : Loop α} {k : Nat}
    (h : total Node.size s.stack ≤ k) : ((turn push emit)^[k] s).stack = [] := by
  induction k generalizing s with
  | zero =>
      rcases turn_cases push emit s with ⟨hs, _⟩ | ⟨rest, n, hs, _⟩
      · exact hs
      · have hn := hpush n
        rw [hs, total_append, total] at h
        omega
  | succ k ih =>
      rw [Function.iterate_succ_apply]
      apply ih
      rcases turn_cases push emit s with ⟨hs, ht⟩ | ⟨rest, n, hs, ht⟩
      · rw [ht, hs]
        exact Nat.zero_le k
      · have hn := hpush n
        rw [hs, total_append, total, total] at h
        rw [ht, total_append]
        omega

/-- The loop over a tree ends within as many turns as the tree has nodes, with what every turn keeps. -/
theorem ends_with {motive : Loop α → Prop} (hpush : ∀ n, total Node.size (push n) < n.size)
    (step : ∀ rest n output, motive ⟨rest ++ [n], output⟩ → motive ⟨rest ++ push n, output ++ emit n⟩)
    {n : Node} (h : motive (start n)) :
    ∃ output, (turn push emit)^[n.size] (start n) = ⟨[], output⟩ ∧ motive ⟨[], output⟩ := by
  have hstack : ((turn push emit)^[n.size] (start n)).stack = [] := stack_iterate_turn hpush (Nat.le_refl _)
  have hmotive := iterate_turn step h n.size
  generalize (turn push emit)^[n.size] (start n) = s at hstack hmotive
  obtain ⟨stack, output⟩ := s
  cases hstack
  exact ⟨output, rfl, hmotive⟩

end Loop

end AttrHoist
