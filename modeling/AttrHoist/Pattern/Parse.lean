import AttrHoist.Pattern.Lexeme

/-!
The written form of patterns, second step: from lexemes to a pattern. The open groups are kept on a
stack; each lexeme adds to the innermost one. Refused are a count with nothing to repeat or after
another count, flags that do not come first, parentheses that do not pair, a group name used twice
and a look behind of varying width. Marks that all alternatives start with are read once, in front of
them, and alternatives of one character each are read as one class.
-/

namespace AttrHoist

namespace Pattern

/-- The parts that follow one another in a pattern. -/
def parts : Pattern → List Pattern
  | empty => []
  | seq p q => p.parts ++ q.parts
  | p => [p]

/-- Parts one after the other. -/
def ofParts : List Pattern → Pattern
  | [] => empty
  | [p] => p
  | p :: ps => seq p (ofParts ps)

/-- Whether two parts are the same mark: the same class, any character, or the same anchor. -/
def sameMark : Pattern → Pattern → Bool
  | any b, any c => b == c
  | one i cls, one j other => i == j && cls == other
  | anchor a, anchor b => a == b
  | _, _ => false

/-- The marks that the first alternative and all others start with, and what is left of each. -/
def takeCommon : (first : List Pattern) → (others : List (List Pattern)) →
    List Pattern × List Pattern × List (List Pattern)
  | [], others => ([], [], others)
  | p :: ps, others =>
    if others.all fun o => o.head?.any p.sameMark then
      let (common, rest, rests) := takeCommon ps (others.map List.tail)
      (p :: common, rest, rests)
    else ([], p :: ps, others)

/-- The class that an alternative consists of, if it is one that names what it admits. -/
def loneClass? : List Pattern → Option (Bool × List ClassItem)
  | [one ignoreCase cls] => if cls.negated then none else some (ignoreCase, cls.items)
  | _ => none

/-- Alternatives, the preferred one first. -/
def ofAlternatives : List (List Pattern) → Pattern
  | [] => empty
  | [b] => ofParts b
  | b :: bs => alt (ofParts b) (ofAlternatives bs)

/-- Alternatives without a common start, as one class if possible. -/
def choice (branches : List (List Pattern)) : Pattern :=
  match branches.mapM loneClass? with
  | some classes =>
    one (classes.any (·.1)) ⟨(classes.flatMap (·.2)).eraseDups, false⟩
  | none => ofAlternatives branches

/-- What alternatives stand for. -/
def oneOf : List (List Pattern) → Pattern
  | [] => empty
  | [b] => ofParts b
  | first :: others =>
    let (common, rest, rests) := takeCommon first others
    ofParts (common ++ [choice (rest :: rests)])

end Pattern

/-- Whether a count may follow an item. -/
inductive Repeatable where
  | yes
  | anchor
  | counted
  deriving DecidableEq

/-- A group that is still open: the finished alternatives and the items of the current one, last
first. -/
structure OpenGroup where
  kind : GroupKind
  flags : PatternFlags := {}
  branches : List (List Pattern) := []
  items : List (Pattern × Repeatable) := []

namespace OpenGroup

def push (g : OpenGroup) (p : Pattern) (r : Repeatable := .yes) : OpenGroup :=
  { g with items := (p, r) :: g.items }

/-- The parts of the current alternative. -/
def branch (g : OpenGroup) : List Pattern :=
  g.items.reverse.flatMap (·.1.parts)

/-- All alternatives as one pattern. -/
def body (g : OpenGroup) : Pattern :=
  .oneOf (g.branch :: g.branches).reverse

/-- What a group stands for once it is closed. A plain group merges with what is around it. -/
def close? (g : OpenGroup) : Option Pattern :=
  let p := g.body
  match g.kind with
  | .plain => some p
  | .capture _ | .flagged .. => some (.group p)
  | .ahead negated => some (.ahead negated p)
  | .behind negated => if p.width.2 = some p.width.1 then some (.behind negated p.width.1 p) else none
  | .atomic => some (.atomic p)

/-- Repeats the last item. -/
def count? (g : OpenGroup) (least : Nat) (most : Option Nat) (appetite : Appetite) : Option OpenGroup :=
  match g.items with
  | (p, .yes) :: items => some { g with items := (.times p least most appetite, .counted) :: items }
  | _ => none

end OpenGroup

namespace Pattern

/-- The state of reading: the innermost open group, those around it, and the names given to groups. -/
structure Reading where
  current : OpenGroup := { kind := .plain }
  around : List OpenGroup := []
  names : List String := []

namespace Reading

def push (s : Reading) (p : Pattern) (r : Repeatable := .yes) : Reading :=
  { s with current := s.current.push p r }

/-- Opens a group inside the current one, which hands its flags down. -/
def enter (s : Reading) (kind : GroupKind) : Reading :=
  let inherited := s.current.flags
  let flags := match kind with
    | .flagged on off => (inherited.union on).without off
    | _ => inherited
  { s with current := { kind, flags }, around := s.current :: s.around }

/-- Takes one lexeme. -/
def step (s : Reading) : Lexeme → Option Reading
  | .one cls => some (s.push (.one s.current.flags.ignoreCase cls))
  | .any => some (s.push (.any s.current.flags.anyBreaks))
  | .lineStart => some (s.push (.anchor (.start s.current.flags.byLine)) .anchor)
  | .lineEnd => some (s.push (.anchor (.finish s.current.flags.byLine)) .anchor)
  | .anchor a => some (s.push (.anchor a) .anchor)
  | .count least most appetite =>
    (s.current.count? least most appetite).map fun g => { s with current := g }
  | .bar =>
    let g := s.current
    some { s with current := { g with branches := g.branch :: g.branches, items := [] } }
  | .opening (.capture (some name)) =>
    if name ∈ s.names then none else some { s.enter (.capture name) with names := name :: s.names }
  | .opening kind => some (s.enter kind)
  | .closing =>
    match s.around with
    | [] => none
    | outer :: around => s.current.close?.map fun p => { s with current := outer.push p, around }
  | .flags f =>
    let g := s.current
    if s.around.isEmpty && g.branches.isEmpty && g.items.isEmpty then
      some { s with current := { g with flags := g.flags.union f } }
    else none

end Reading

/-- The pattern that a text stands for, if it is well formed. -/
def parse? (text : String) : Option Pattern := do
  let lexemes ← Lexeme.ofText? text
  let s ← lexemes.foldlM Reading.step {}
  if s.around.isEmpty then some s.current.body else none

end Pattern

end AttrHoist
