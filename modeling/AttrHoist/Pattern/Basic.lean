import AttrHoist.Text.Blank
import AttrHoist.Text.Decimal
import AttrHoist.Text.LetterCase
import AttrHoist.Text.Word

/-! Search patterns for attribute names, and what their parts ask of single characters and places. -/

namespace AttrHoist

/-- One alternative of a character class. Characters are given by code point. -/
inductive ClassItem where
  | code (n : Nat)
  | range (first last : Nat)
  | decimal (positive : Bool)
  | blank (positive : Bool)
  | word (positive : Bool)
  deriving DecidableEq, Repr

/-- A set of characters: those that one of the items admits, or all others. -/
structure CharClass where
  items : List ClassItem
  negated : Bool := false
  deriving DecidableEq, Repr

/-- A condition on a place in a text. -/
inductive Anchor where
  | textStart
  | textEnd
  /-- The start of the text or, by lines, of a line. -/
  | start (byLine : Bool)
  /-- The end of the text, also in front of a final line break, or, by lines, of a line. -/
  | finish (byLine : Bool)
  | boundary
  | noBoundary
  deriving DecidableEq, Repr

/-- How many repetitions are tried first, and whether fewer or more are tried after that. -/
inductive Appetite where
  | greedy
  | reluctant
  | possessive
  deriving DecidableEq, Repr

/-- A search pattern. -/
inductive Pattern where
  | empty
  /-- Any character; a line break only if told so. -/
  | any (lineBreaks : Bool)
  | one (ignoreCase : Bool) (cls : CharClass)
  | anchor (a : Anchor)
  | seq (p q : Pattern)
  | alt (p q : Pattern)
  | times (p : Pattern) (least : Nat) (most : Option Nat) (appetite : Appetite)
  /-- What follows matches, or does not. -/
  | ahead (negated : Bool) (p : Pattern)
  /-- The `width` characters before match, or do not. -/
  | behind (negated : Bool) (width : Nat) (p : Pattern)
  /-- The first way to match and no other. -/
  | atomic (p : Pattern)
  /-- A part that is kept apart from its surroundings. -/
  | group (p : Pattern)
  deriving Repr

namespace ClassItem

/-- Whether an item admits a character. -/
def admits (c : Char) : ClassItem → Bool
  | code n => c.toNat == n
  | range first last => first ≤ c.toNat && c.toNat ≤ last
  | decimal positive => Text.isDecimal c == positive
  | blank positive => Text.isBlank c == positive
  | word positive => Text.isWord c == positive

/-- Whether an item of a longer class admits a character without regard to case. A single character
above `U+FFFF` admits those whose small letter it is, so a capital from there admits nothing. A range
that goes beyond `U+FFFF` also admits a letter whose capital form starts in it. -/
def admitsLike (c : Char) : ClassItem → Bool
  | code n => if n ≤ 0xFFFF then (Text.sameLetter c).contains n else Text.smallLetter c.toNat == n
  | range first last =>
    (Text.sameLetter c).any (fun n => first ≤ n && n ≤ last) ||
      (0xFFFF < last && (Text.lateCapitals.lookup c.toNat).any (first ≤ ·))
  | item => item.admits c

end ClassItem

/-- Whether one of several items admits a character. Without regard to case, a character that stands
alone admits all that are like it. -/
def ClassItem.anyAdmits (ignoreCase : Bool) (c : Char) : List ClassItem → Bool
  | [code n] => if ignoreCase then (Text.sameLetter c).contains n else (code n).admits c
  | items => items.any (if ignoreCase then admitsLike c else admits c)

/-- Whether a class holds a character. -/
def CharClass.holds (cls : CharClass) (ignoreCase : Bool) (c : Char) : Bool :=
  ClassItem.anyAdmits ignoreCase c cls.items != cls.negated

/-- Whether a place lies between a word character and something else. -/
def atBoundary (text : Array Char) (pos : Nat) : Bool :=
  let isWordAt (i : Nat) := text[i]?.any Text.isWord
  (0 < pos && isWordAt (pos - 1)) != isWordAt pos

/-- Whether an anchor holds at a place. No place of the empty text counts as a boundary or as none. -/
def Anchor.holds (text : Array Char) (pos : Nat) : Anchor → Bool
  | textStart => pos == 0
  | textEnd => pos == text.size
  | start byLine => pos == 0 || (byLine && text[pos - 1]? == some '\n')
  | finish byLine =>
    pos == text.size || (text[pos]? == some '\n' && (byLine || pos + 1 == text.size))
  | boundary => !text.isEmpty && atBoundary text pos
  | noBoundary => !text.isEmpty && !atBoundary text pos

namespace Pattern

/-- The least and the greatest number of characters that a match takes; no greatest if there is no
limit. -/
def width : Pattern → Nat × Option Nat
  | empty | anchor _ | ahead .. | behind .. => (0, some 0)
  | any _ | one .. => (1, some 1)
  | seq p q =>
    (p.width.1 + q.width.1, p.width.2.bind fun a => q.width.2.map (a + ·))
  | alt p q =>
    (min p.width.1 q.width.1, p.width.2.bind fun a => q.width.2.map (max a ·))
  | times p least most _ =>
    (p.width.1 * least,
      if most = some 0 then some 0
      else p.width.2.bind fun a => if a = 0 then some 0 else most.map (a * ·))
  | atomic p | group p => p.width

/-- The first number of repetitions that is too large to be counted. -/
def countLimit : Nat := 0xFFFFFFFF

/-- Whether a part is to be repeated too often to be counted. -/
def isOversized : Pattern → Bool
  | empty | any _ | one .. | anchor _ => false
  | seq p q | alt p q => p.isOversized || q.isOversized
  | times p least most _ => countLimit ≤ least || most.any (countLimit ≤ ·) || p.isOversized
  | ahead _ p | behind _ _ p | atomic p | group p => p.isOversized

end Pattern

end AttrHoist
