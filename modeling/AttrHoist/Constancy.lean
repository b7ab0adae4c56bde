import AttrHoist.Scope.Resolve
import AttrHoist.Scope.Reads

/-!
Which expressions may be evaluated once, when the module is loaded. An expression comes with a list
of requirements and is constant when all of them are met: literals ask for nothing, objects,
templates and binary expressions for their parts, identifiers for a fixed declaration, functions for
fixed declarations of all that they read from outside. What is not recognised asks for the
impossible.
-/

namespace AttrHoist

/-- Something that must hold for an expression to be constant. -/
inductive Requirement where
  /-- The expression at this site is constant. -/
  | part (site : Site)
  /-- The identifier at this site refers to a fixed declaration. -/
  | fixed (site : Site)
  /-- Never met. -/
  | impossible (reason : Option Event)

namespace Site

/-- What one member of an object asks for. -/
def memberRequirement (m : Site) : Requirement :=
  if m.kind ≠ Kind.pair then .impossible (some (.memberBlocks m.kind))
  else match m.child? "key", m.child? "value" with
    | some key, some value =>
      if key.kind = Kind.computedName then .impossible (some .computedKey) else .part value
    | _, _ => .impossible none

/-- The expressions substituted into a template. -/
def substitutions (s : Site) : List Site :=
  (s.namedChildren.filter (·.kind == Kind.templateSubstitution)).flatMap namedChildren

/-- What a function asks for: no receiver from outside if it is an arrow function, and fixed
declarations of its free reads. -/
def functionRequirements (f : Site) : List Requirement :=
  if f.kind = Kind.arrow ∧ f.node.readsReceiver then [.impossible (some .outerReceiver)]
  else f.freeReads.map .fixed

/-- What an expression asks for, in the order in which it is checked. -/
def requirements (s : Site) : List Requirement :=
  if s.kind ∈ Kind.literals then []
  else if s.kind = Kind.object then s.namedChildren.map memberRequirement
  else if s.kind = Kind.templateString then s.substitutions.map .part
  else if s.kind = Kind.binary then
    match s.child? "left", s.child? "right" with
    | some left, some right => [.part left, .part right]
    | _, _ => [.impossible none]
  else if s.kind = Kind.identifier then [.fixed s]
  else if s.kind ∈ Kind.functionExpressions then s.functionRequirements
  else [.impossible (some (.neverMoved s.kind))]

theorem part_of_memberRequirement {p m : Site} (h : m.memberRequirement = .part p) :
    p ∈ m.children := by
  unfold memberRequirement at h
  split at h
  · cases h
  · split at h
    · rename_i hv
      split at h
      · cases h
      · cases h; exact mem_of_child? hv
    · cases h

theorem part_smaller {p s : Site} (h : .part p ∈ s.requirements) : p.node.size < s.node.size := by
  unfold requirements at h
  repeat' split at h
  · cases h
  · obtain ⟨m, hm, hp⟩ := List.mem_map.1 h
    exact Nat.lt_trans (size_lt_of_mem (part_of_memberRequirement hp))
      (size_lt_of_mem (mem_of_namedChildren hm))
  · obtain ⟨q, hq, hp⟩ := List.mem_map.1 h
    cases hp
    obtain ⟨t, ht, hp⟩ := List.mem_flatMap.1 hq
    exact Nat.lt_trans (size_lt_of_mem (mem_of_namedChildren hp))
      (size_lt_of_mem (mem_of_namedChildren (List.mem_filter.1 ht).1))
  · rename_i hl hr
    rcases List.mem_cons.1 h with h | h
    · cases h; exact size_lt_of_mem (mem_of_child? hl)
    · cases List.mem_singleton.1 h; exact size_lt_of_mem (mem_of_child? hr)
  · cases List.mem_singleton.1 h
  · cases List.mem_singleton.1 h
  · unfold functionRequirements at h
    split at h
    · cases List.mem_singleton.1 h
    · obtain ⟨_, _, hi⟩ := List.mem_map.1 h
      cases hi
  · cases List.mem_singleton.1 h

end Site

namespace Resolver

/-- Whether the identifier at a site refers to a fixed declaration. -/
def fixed (r : Resolver) (s : Site) : Traced Bool := do
  let d ← r.resolve s
  if d.isFixed then pure true else .refuse (some (.changeable s.text d))

/-- Whether the expression at a site may be evaluated once and for all. -/
def constant (r : Resolver) (s : Site) : Traced Bool :=
  .all (s.requirements.attach.map fun
    | ⟨.part p, _⟩ => constant r p
    | ⟨.fixed i, _⟩ => r.fixed i
    | ⟨.impossible reason, _⟩ => .refuse reason)
termination_by s.node.size
decreasing_by exact Site.part_smaller ‹_›

/-- Whether a requirement is met. -/
def meets (r : Resolver) : Requirement → Traced Bool
  | .part p => r.constant p
  | .fixed i => r.fixed i
  | .impossible reason => .refuse reason

/-- An expression is constant when its requirements are met, checked from left to right. -/
theorem constant_eq (r : Resolver) (s : Site) :
    r.constant s = .all (s.requirements.map r.meets) := by
  rw [constant, ← List.attach_map_val (l := s.requirements) (f := r.meets)]
  congr 1
  apply List.map_congr_left
  rintro ⟨q, _⟩ _
  cases q <;> rfl

/-- Whether a function of any form meets what is asked of functions. -/
def pureEnough (r : Resolver) (f : Site) : Traced Bool :=
  .all (f.functionRequirements.map r.meets)

end Resolver

/-- Whether a site lies inside a function. -/
def Site.insideFunction (s : Site) : Bool :=
  s.ancestors.any (·.node.isFunction)

/-- Whether a candidate may be moved. Outside every function nothing is evaluated twice, and moving
a value would change the order in which the module is evaluated. -/
def Resolver.hoistable (r : Resolver) (s : Site) : Traced Bool :=
  if s.insideFunction then r.constant s else .refuse (some (.atModuleLevel s.kind))

end AttrHoist
