import AttrHoist.Event

/-!
Results with the events that led to them. One definition gives both the answer of a check and the
record of how far it went; `Traced.value` forgets the record.
-/

namespace AttrHoist

/-- A result and the events on the way to it, oldest first. -/
structure Traced (α : Type) where
  value : α
  events : List Event := []
  deriving Repr

namespace Traced

instance : Monad Traced where
  pure a := ⟨a, []⟩
  bind x f := ⟨(f x.value).value, x.events ++ (f x.value).events⟩

variable {α β : Type}

@[simp] theorem value_pure (a : α) : (pure a : Traced α).value = a := rfl

@[simp] theorem events_pure (a : α) : (pure a : Traced α).events = [] := rfl

@[simp] theorem value_bind (x : Traced α) (f : α → Traced β) :
    (x >>= f).value = (f x.value).value := rfl

@[simp] theorem events_bind (x : Traced α) (f : α → Traced β) :
    (x >>= f).events = x.events ++ (f x.value).events := rfl

@[simp] theorem value_map (f : α → β) (x : Traced α) : (f <$> x).value = f x.value := rfl

@[ext] theorem ext {x y : Traced α} (hv : x.value = y.value) (he : x.events = y.events) : x = y := by
  cases x; cases y; cases hv; cases he; rfl

instance : LawfulMonad Traced :=
  LawfulMonad.mk' Traced
    (fun x => ext rfl (List.append_nil x.events))
    (fun _ _ => ext rfl (List.nil_append _))
    (fun x _ _ => ext rfl (List.append_assoc x.events _ _))

/-- Reports an event. -/
def report (e : Event) : Traced Unit := ⟨(), [e]⟩

/-- A refusal, with the reason for it if there is one to report. -/
def refuse (reason : Option Event) : Traced Bool := ⟨false, reason.toList⟩

/-- Checks made one after the other until one fails; the later ones are not made and leave no
record. -/
def all : List (Traced Bool) → Traced Bool
  | [] => pure true
  | c :: cs => if c.value then ⟨(all cs).value, c.events ++ (all cs).events⟩ else c

@[simp] theorem value_all (cs : List (Traced Bool)) : (all cs).value = cs.all (·.value) := by
  induction cs with
  | nil => rfl
  | cons c cs ih => cases h : c.value <;> simp [all, h, ih]

end Traced

end AttrHoist
