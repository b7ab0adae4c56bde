import AttrHoist.Proofs.Lemmas.Similar
import AttrHoist.Proofs.Lemmas.Stacks

/-!
# Declared names by structure

Which names a node declares is said here by rules, one for each form of declaration and of pattern. The names that are
collected from a piece of code are those that the rules give for its nodes outside of functions, in whatever order the
nodes are looked at.
-/

namespace AttrHoist.Node

/-! ## Rules -/

/-- `p.BindsThrough q`: the pattern `p` leaves it to its part `q` to bind names. -/
inductive BindsThrough (p : Node) : Node → Prop
  | withDefault {q} (hk : p.kind ∈ Kind.defaultPatterns) (hq : p.child? "left" = some q) : p.BindsThrough q
  | pair {q} (hk : p.kind = Kind.pairPattern) (hq : p.child? "value" = some q) : p.BindsThrough q
  | parameter {q} (hk : p.kind ∈ Kind.parameterWrappers) (hq : p.child? "pattern" = some q) : p.BindsThrough q
  | member {q} (hk : p.kind ∈ Kind.compositePatterns) (hq : q ∈ p.namedChildren) : p.BindsThrough q

/-- `p.PatternBinds name`: the pattern `p` binds `name`, by itself or through its parts at any depth. -/
inductive PatternBinds : Node → String → Prop
  | itself {p} (hk : p.kind = Kind.identifier ∨ p.kind = Kind.shorthandPattern) : PatternBinds p p.text
  | part {p q name} (hq : p.BindsThrough q) (h : PatternBinds q name) : PatternBinds p name

/-- `n.Declares name`: the node `n` itself declares `name`, whatever its children declare. -/
inductive Declares (n : Node) : String → Prop
  | declarator {p name} (hk : n.kind = Kind.declarator) (hp : n.child? "name" = some p) (h : p.PatternBinds name) :
      n.Declares name
  | named {c} (hk : n.kind ∈ Kind.namedDeclarations) (hc : n.child? "name" = some c) : n.Declares c.text
  | caught {p name} (hk : n.kind = Kind.catchClause) (hp : n.child? "parameter" = some p) (h : p.PatternBinds name) :
      n.Declares name
  | looped {keyword p name} (hk : n.kind = Kind.forIn) (hkeyword : n.child? "kind" = some keyword)
      (hp : n.child? "left" = some p) (h : p.PatternBinds name) : n.Declares name

/-! ## Patterns -/

variable {n p q : Node} {name : String}

theorem isBinder_iff : p.isBinder = true ↔ p.kind = Kind.identifier ∨ p.kind = Kind.shorthandPattern := by
  rw [isBinder, Bool.or_eq_true, beq_iff_eq, beq_iff_eq]

theorem mem_patternParts : q ∈ p.patternParts ↔ p.BindsThrough q := by
  constructor
  · intro h
    unfold patternParts at h
    split at h
    · exact .withDefault ‹_› (Option.mem_toList.mp h)
    split at h
    · exact .pair ‹_› (Option.mem_toList.mp h)
    split at h
    · exact .parameter ‹_› (Option.mem_toList.mp h)
    split at h
    · exact .member ‹_› h
    · cases h
  · intro h
    unfold patternParts
    cases h with
    | withDefault hk hq =>
        rw [if_pos hk]
        exact Option.mem_toList.mpr hq
    | pair hk hq =>
        rw [if_neg (by rw [hk]; decide), if_pos hk]
        exact Option.mem_toList.mpr hq
    | parameter hk hq =>
        have hne : ∀ k ∈ Kind.parameterWrappers, k ∉ Kind.defaultPatterns ∧ k ≠ Kind.pairPattern := by decide
        rw [if_neg (hne _ hk).1, if_neg (hne _ hk).2, if_pos hk]
        exact Option.mem_toList.mpr hq
    | member hk hq =>
        have hne : ∀ k ∈ Kind.compositePatterns,
            k ∉ Kind.defaultPatterns ∧ k ≠ Kind.pairPattern ∧ k ∉ Kind.parameterWrappers := by decide
        rw [if_neg (hne _ hk).1, if_neg (hne _ hk).2.1, if_neg (hne _ hk).2.2, if_pos hk]
        exact hq

theorem BindsThrough.not_isBinder (h : p.BindsThrough q) : ¬ p.isBinder = true := by
  have hne : ∀ k ∈ Kind.defaultPatterns ++ Kind.pairPattern :: Kind.parameterWrappers ++ Kind.compositePatterns,
      ¬ (k = Kind.identifier ∨ k = Kind.shorthandPattern) := by decide
  rw [isBinder_iff]
  apply hne
  cases h with
  | withDefault hk => simp [hk]
  | pair hk => simp [hk]
  | parameter hk => simp [hk]
  | member hk => simp [hk]

theorem mem_patternNames : name ∈ p.patternNames ↔ p.PatternBinds name := by
  constructor
  · intro h
    induction p using induction_on with
    | step p ih =>
        rw [patternNames_eq] at h
        split at h
        · next hb =>
            rw [List.mem_singleton.mp h]
            exact .itself (isBinder_iff.mp hb)
        · obtain ⟨q, hq, hn⟩ := List.mem_flatMap.mp h
          exact .part (mem_patternParts.mp hq) (ih q (mem_of_patternParts hq) hn)
  · intro h
    induction h with
    | itself hk =>
        rw [patternNames_eq, if_pos (isBinder_iff.mpr hk)]
        exact List.mem_singleton_self _
    | part hq _ ih =>
        rw [patternNames_eq, if_neg hq.not_isBinder]
        exact List.mem_flatMap.mpr ⟨_, mem_patternParts.mpr hq, ih⟩

/-! ## Single nodes -/

theorem mem_namesIn {field : String} :
    name ∈ n.namesIn field ↔ ∃ p, n.child? field = some p ∧ p.PatternBinds name := by
  rw [namesIn, List.mem_flatMap]
  exact exists_congr fun p => and_congr Option.mem_toList mem_patternNames

theorem mem_ownNames : name ∈ n.ownNames ↔ n.Declares name := by
  constructor
  · intro h
    unfold ownNames at h
    split at h
    · obtain ⟨p, hp, hb⟩ := mem_namesIn.mp h
      exact .declarator ‹_› hp hb
    split at h
    · obtain ⟨c, hc, rfl⟩ := List.mem_map.mp h
      exact .named ‹_› (Option.mem_toList.mp hc)
    split at h
    · obtain ⟨p, hp, hb⟩ := mem_namesIn.mp h
      exact .caught ‹_› hp hb
    split at h
    · next hk =>
        obtain ⟨keyword, hkeyword⟩ := Option.isSome_iff_exists.mp hk.2
        obtain ⟨p, hp, hb⟩ := mem_namesIn.mp h
        exact .looped hk.1 hkeyword hp hb
    · cases h
  · intro h
    unfold ownNames
    cases h with
    | declarator hk hp hb =>
        rw [if_pos hk]
        exact mem_namesIn.mpr ⟨_, hp, hb⟩
    | named hk hc =>
        have hne : ∀ k ∈ Kind.namedDeclarations, k ≠ Kind.declarator := by decide
        rw [if_neg (hne _ hk), if_pos hk]
        exact List.mem_map_of_mem (Option.mem_toList.mpr hc)
    | caught hk hp hb =>
        rw [if_neg (by rw [hk]; decide), if_neg (by rw [hk]; decide), if_pos hk]
        exact mem_namesIn.mpr ⟨_, hp, hb⟩
    | looped hk hkeyword hp hb =>
        rw [if_neg (by rw [hk]; decide), if_neg (by rw [hk]; decide), if_neg (by rw [hk]; decide),
          if_pos ⟨hk, Option.isSome_iff_exists.mpr ⟨_, hkeyword⟩⟩]
        exact mem_namesIn.mpr ⟨_, hp, hb⟩

/-! ## Pieces of code -/

/-- The nodes whose declarations count as those of a node: its children, unless it is a function. -/
def entered (n : Node) : List Node := if n.isFunction then [] else n.children

theorem total_entered_lt_size (n : Node) : total size n.entered < n.size := by
  have hlt := total_children_lt_size n
  rw [entered]
  split
  · rw [total]
    omega
  · exact hlt

theorem declaredNames_eq_append (n : Node) : n.declaredNames = n.ownNames ++ n.entered.flatMap declaredNames := by
  rw [declaredNames_eq, entered]
  cases n.isFunction with
  | true => rfl
  | false => rfl

/-- The names given out so far and those declared by what is on the stack are always the same names. -/
theorem declaredNames_turn {all : List String} (rest : List Node) (m : Node) (output : List String)
    (h : (output ++ (rest ++ [m]).flatMap declaredNames).Perm all) :
    ((output ++ m.ownNames) ++ (rest ++ m.entered).flatMap declaredNames).Perm all := by
  refine List.Perm.trans ?_ h
  rw [List.flatMap_append, List.flatMap_append, List.flatMap_singleton, declaredNames_eq_append m, List.append_assoc]
  exact (List.perm_append_comm_assoc ..).append_left output

theorem iterate_declaredNames (n : Node) :
    ∃ names, (Loop.turn entered ownNames)^[n.size] (.start n) = ⟨[], names⟩ ∧ names.Perm n.declaredNames := by
  -- the last child lies on top of the stack, so the loop finds the names in another order than `visit`
  obtain ⟨names, hend, hnames⟩ := Loop.ends_with
    (motive := fun s => (s.output ++ s.stack.flatMap declaredNames).Perm n.declaredNames)
    total_entered_lt_size declaredNames_turn (n := n) (by rw [Loop.start, List.flatMap_singleton, List.nil_append])
  exact ⟨names, hend, List.append_nil names ▸ hnames⟩

/-- The names declared in a piece of code are those that its outermost node declares itself and, unless that is a
function, those declared in its children. A loop over a stack collects the same names from the last child to the
first. -/
theorem declaredNames_structural (n : Node) :
    (∀ name, name ∈ n.declaredNames ↔
      n.Declares name ∨ n.kind ∉ Kind.functions ∧ ∃ c ∈ n.children, name ∈ c.declaredNames) ∧
    ∃ names, (Loop.turn entered ownNames)^[n.size] (.start n) = ⟨[], names⟩ ∧
      ∀ name, name ∈ names ↔ name ∈ n.declaredNames := by
  constructor
  · intro name
    rw [declaredNames_eq_append, List.mem_append, mem_ownNames, List.mem_flatMap, entered, isFunction]
    by_cases hf : n.kind ∈ Kind.functions
    · simp [hf]
    · simp [hf]
  · obtain ⟨names, hend, hperm⟩ := n.iterate_declaredNames
    exact ⟨names, hend, fun name => hperm.mem_iff⟩

end AttrHoist.Node
