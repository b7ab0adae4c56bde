import AttrHoist.Pattern.Basic

/-!
Matching by trying the ways through a pattern in order of preference. A way goes on with the rest of
the search as soon as it gets to a place, so nothing is tried beyond the first success. What a
repetition comes to at a place is found out once and kept, so the ways through nested repetitions,
of which there may be very many, are not all walked.
-/

namespace AttrHoist

/-- What the rest of a search comes to at each place: the end of the match, or nothing. -/
abbrev Rest := Nat → Option Nat

/-- The ways through a part of a search: given what the rest comes to, what both come to. -/
abbrev Route := Rest → Rest

/-- What a search comes to at a place and at each later one, worked out on demand and kept. -/
inductive Outlook where
  | ended
  | place (here : Thunk (Option Nat)) (later : Thunk Outlook)

namespace Outlook

/-- What the search comes to some places further on. -/
def ahead : Outlook → Nat → Option Nat
  | ended, _ => none
  | place here _, 0 => here.get
  | place _ later, n + 1 => later.get.ahead n

/-- The outlook over `count` places from `pos` on, if what the search comes to at a place follows
from what it comes to at later places. -/
def build (step : Route) : (count pos : Nat) → Outlook
  | 0, _ => ended
  | count + 1, pos =>
    let later := Thunk.mk fun _ => build step count (pos + 1)
    place (Thunk.mk fun _ => step (fun i => later.get.ahead (i - (pos + 1))) pos) later

end Outlook

/-- Repetitions of a part, seen from the place where the first one starts. -/
structure Repetition where
  body : Route
  reluctant : Bool
  /-- The number of places from the first one to the end of the text. -/
  count : Nat
  origin : Nat

namespace Repetition

/-- One more repetition or none, whichever is preferred first. A repetition that takes no character
is the last one. -/
def onceMore (r : Repetition) (rest again : Rest) (pos : Nat) : Option Nat :=
  let further (_ : Unit) := r.body (fun i => if i = pos then rest i else again i) pos
  if r.reluctant then rest pos <|> further () else further () <|> rest pos

/-- The outlook of a search that goes on from one outlook to the next. -/
def before (r : Repetition) (step : Route) (next : Thunk Outlook) : Outlook :=
  .build (fun _ => step fun i => next.get.ahead (i - r.origin)) r.count r.origin

/-- Any number of repetitions. -/
def many (r : Repetition) (rest : Rest) : Outlook :=
  .build (r.onceMore rest) r.count r.origin

/-- At most a number of repetitions. -/
def upTo (r : Repetition) (rest : Rest) : Nat → Outlook
  | 0 => .build (fun _ => rest) r.count r.origin
  | n + 1 => r.before (r.onceMore rest) (Thunk.mk fun _ => upTo r rest n)

/-- A number of repetitions and what follows them. -/
def exactly (r : Repetition) (next : Outlook) : Nat → Outlook
  | 0 => next
  | n + 1 => r.before r.body (Thunk.mk fun _ => exactly r next n)

/-- What repetitions within bounds come to. -/
def within (r : Repetition) (least : Nat) (most : Option Nat) (rest : Rest) : Option Nat :=
  let next := match most with
    | none => r.many rest
    | some n => r.upTo rest (n - least)
  (r.exactly next least).ahead 0

end Repetition

/-- Only the preferred way. -/
def Route.committed (body : Route) (rest : Rest) (pos : Nat) : Option Nat :=
  (body some pos).bind rest

/-- The place where a run of characters ends, after at most a number of them. -/
def runEnd (text : Array Char) (test : Char → Bool) : (limit pos : Nat) → Nat
  | 0, pos => pos
  | limit + 1, pos => if text[pos]?.any test then runEnd text test limit (pos + 1) else pos

/-- The first success at `extra` places after `pos` and back to it. -/
def firstBack (rest : Rest) (pos : Nat) : (extra : Nat) → Option Nat
  | 0 => rest pos
  | extra + 1 => rest (pos + extra + 1) <|> firstBack rest pos extra

/-- The first success from `pos` on up to `extra` places after it. -/
def firstOnward (rest : Rest) : (extra pos : Nat) → Option Nat
  | 0, pos => rest pos
  | extra + 1, pos => rest pos <|> firstOnward rest extra (pos + 1)

/-- Repetitions of a single character. -/
def repeatChar (text : Array Char) (test : Char → Bool) (appetite : Appetite) (least : Nat)
    (most : Option Nat) (rest : Rest) (pos : Nat) : Option Nat :=
  let left := text.size - pos
  let stop := runEnd text test (most.elim left (min left)) pos
  if stop < pos + least then none
  else match appetite with
    | .greedy => firstBack rest (pos + least) (stop - (pos + least))
    | .reluctant => firstOnward rest (stop - (pos + least)) (pos + least)
    | .possessive => rest stop

namespace Pattern

/-- What a pattern for a single character asks of it. -/
def single? : Pattern → Option (Char → Bool)
  | any lineBreaks => some fun c => lineBreaks || c != '\n'
  | one ignoreCase cls => some (cls.holds ignoreCase)
  | _ => none

/-- The ways through a pattern. -/
def route (text : Array Char) : Pattern → Route
  | empty, rest, pos => rest pos
  | any lineBreaks, rest, pos =>
    if text[pos]?.any (fun c => lineBreaks || c != '\n') then rest (pos + 1) else none
  | one ignoreCase cls, rest, pos =>
    if text[pos]?.any (cls.holds ignoreCase) then rest (pos + 1) else none
  | anchor a, rest, pos => if a.holds text pos then rest pos else none
  | seq p q, rest, pos => p.route text (q.route text rest) pos
  | alt p q, rest, pos => p.route text rest pos <|> q.route text rest pos
  | times p least most appetite, rest, pos =>
    match p.single? with
    | some test => repeatChar text test appetite least most rest pos
    | none =>
      let count := text.size + 1 - pos
      if appetite = .possessive then
        (Repetition.within ⟨(p.route text).committed, false, count, pos⟩ least most some).bind rest
      else
        Repetition.within ⟨p.route text, appetite == .reluctant, count, pos⟩ least most rest
  | ahead negated p, rest, pos =>
    if (p.route text some pos).isSome != negated then rest pos else none
  | behind negated width p, rest, pos =>
    let matched := width ≤ pos && p.route text some (pos - width) == some pos
    if matched != negated then rest pos else none
  | atomic p, rest, pos => (p.route text).committed rest pos
  | group p, rest, pos => p.route text rest pos

/-- Whether a pattern matches somewhere in a text. -/
def occursIn (p : Pattern) (text : String) : Bool :=
  let chars := text.toList.toArray
  (List.range (chars.size + 1)).any fun pos => (p.route chars some pos).isSome

end Pattern

end AttrHoist
