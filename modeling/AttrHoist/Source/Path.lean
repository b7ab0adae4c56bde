/-!
Paths as written: parts between slashes. Empty parts and single dots mean nothing and are dropped; a
part of two dots is kept. Two slashes in front, and no third, are a root of their own.
-/

namespace AttrHoist

/-- Where a path starts. -/
inductive Anchorage where
  | relative
  | root
  | doubleRoot
  deriving DecidableEq, Repr

/-- A path without empty parts and single dots. -/
structure Path where
  start : Anchorage
  parts : List String
  deriving DecidableEq, Repr

namespace Path

/-- The pieces of a text between slashes. -/
def splitParts (text : String) : List String :=
  let pieces := text.toList.foldr (fun c acc =>
    if c = '/' then [] :: acc
    else match acc with
      | piece :: rest => (c :: piece) :: rest
      | [] => [[c]]) [[]]
  pieces.map String.ofList

/-- The path that a text stands for. -/
def ofText (text : String) : Path :=
  let slashes := (text.toList.takeWhile (· = '/')).length
  let start : Anchorage :=
    if slashes = 0 then .relative else if slashes = 2 then .doubleRoot else .root
  ⟨start, (splitParts text).filter fun part => part ≠ "" && part ≠ "."⟩

/-- The text of a path; the empty path is a single dot. -/
def toText (p : Path) : String :=
  let body := String.intercalate "/" p.parts
  match p.start with
  | .relative => if p.parts.isEmpty then "." else body
  | .root => "/" ++ body
  | .doubleRoot => "//" ++ body

/-- The characters of the last part from its last dot on, if there is something on both sides of
that dot. -/
def extension (p : Path) : List Char :=
  let name := (p.parts.getLast?.getD "").toList
  let afterDot := (name.reverse.takeWhile (· ≠ '.')).reverse
  let stem := name.take (name.length - afterDot.length - 1)
  if afterDot.isEmpty || stem.isEmpty then [] else '.' :: afterDot

end Path

end AttrHoist
