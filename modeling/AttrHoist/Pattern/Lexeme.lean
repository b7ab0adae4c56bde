import AttrHoist.Pattern.Basic

/-!
The written form of patterns, first step: from characters to lexemes. Reading fails on what is no
pattern: a lone backslash, an unknown escape, an open class, a range or a count that runs backwards,
an unknown kind of group. Not part of the notation, and refused, are also references to groups,
conditions on groups, characters by name, and the flags that keep to plain letters or let a pattern be
spread over lines.
-/

namespace AttrHoist

/-- A character as written, or one with a backslash before it. -/
structure Written where
  char : Char
  escaped : Bool := false

namespace Written

/-- Splits a text; a backslash must have a character after it. -/
def ofChars : List Char → Option (List Written)
  | [] => some []
  | '\\' :: c :: rest => (ofChars rest).map (⟨c, true⟩ :: ·)
  | '\\' :: [] => none
  | c :: rest => (ofChars rest).map (⟨c, false⟩ :: ·)

def is (w : Written) (c : Char) : Bool := !w.escaped && w.char == c

def isPlain (w : Written) (p : Char → Bool) : Bool := !w.escaped && p w.char

end Written

/-- What changes the meaning of characters in a group. -/
structure PatternFlags where
  ignoreCase : Bool := false
  byLine : Bool := false
  anyBreaks : Bool := false
  deriving DecidableEq, Repr

namespace PatternFlags

/-- The flags that are on in one or the other. -/
def union (f g : PatternFlags) : PatternFlags :=
  ⟨f.ignoreCase || g.ignoreCase, f.byLine || g.byLine, f.anyBreaks || g.anyBreaks⟩

/-- The flags that are on in `f` and not in `g`. -/
def without (f g : PatternFlags) : PatternFlags :=
  ⟨f.ignoreCase && !g.ignoreCase, f.byLine && !g.byLine, f.anyBreaks && !g.anyBreaks⟩

/-- Turns on the flag for a letter. -/
def add? (f : PatternFlags) : Char → Option PatternFlags
  | 'i' => some { f with ignoreCase := true }
  | 'm' => some { f with byLine := true }
  | 's' => some { f with anyBreaks := true }
  | _ => none

end PatternFlags

/-- What a parenthesis opens. -/
inductive GroupKind where
  | capture (name : Option String)
  | plain
  /-- A group with some flags turned on and others off. -/
  | flagged (on off : PatternFlags)
  | ahead (negated : Bool)
  | behind (negated : Bool)
  | atomic
  deriving DecidableEq, Repr

/-- A unit of the written form of a pattern. -/
inductive Lexeme where
  | one (cls : CharClass)
  | any
  | lineStart
  | lineEnd
  | anchor (a : Anchor)
  | count (least : Nat) (most : Option Nat) (appetite : Appetite)
  | bar
  | opening (kind : GroupKind)
  | closing
  | flags (f : PatternFlags)
  deriving Repr

namespace Lexeme

/-- A unit, or nothing for a comment, and what is left to read. -/
abbrev Read (α : Type) := Option (α × List Written)

def literal (n : Nat) : Lexeme := .one ⟨[.code n], false⟩

def isHex (c : Char) : Bool :=
  c.isDigit || ('a' ≤ c && c ≤ 'f') || ('A' ≤ c && c ≤ 'F')

def isOctal (c : Char) : Bool := '0' ≤ c && c ≤ '7'

def digitValue (c : Char) : Nat :=
  if c.isDigit then c.toNat - '0'.toNat
  else if 'a' ≤ c then c.toNat - 'a'.toNat + 10
  else c.toNat - 'A'.toNat + 10

/-- The number written by digits of a base. -/
def ofDigits (base : Nat) (cs : List Char) : Nat :=
  cs.foldl (fun n c => base * n + digitValue c) 0

/-- Takes at most `n` plain characters of a sort from the front. -/
def takePlain (p : Char → Bool) : Nat → List Written → List Char × List Written
  | n + 1, w :: rest =>
    if w.isPlain p then
      let (cs, rest') := takePlain p n rest
      (w.char :: cs, rest')
    else ([], w :: rest)
  | _, rest => ([], rest)

/-- Takes all plain characters of a sort from the front. -/
def takeAllPlain (p : Char → Bool) (ws : List Written) : List Char × List Written :=
  takePlain p ws.length ws

/-- A code point given by exactly `n` hexadecimal digits. -/
def hexCode (n : Nat) (ws : List Written) : Read Nat :=
  let (digits, rest) := takePlain isHex n ws
  let code := ofDigits 16 digits
  if digits.length = n && code ≤ 0x10FFFF then some (code, rest) else none

/-- Character classes that have an escape. -/
def classEscape? : Char → Option ClassItem
  | 'd' => some (.decimal true)
  | 'D' => some (.decimal false)
  | 's' => some (.blank true)
  | 'S' => some (.blank false)
  | 'w' => some (.word true)
  | 'W' => some (.word false)
  | _ => none

/-- Control characters that have an escape, and the backslash. -/
def controlEscape? : Char → Option Nat
  | 'a' => some 7
  | 'f' => some 12
  | 'n' => some 10
  | 'r' => some 13
  | 't' => some 9
  | 'v' => some 11
  | '\\' => some '\\'.toNat
  | _ => none

/-- Escapes that are read alike inside and outside of a class: control characters, code points, and
characters that are no letter or digit. -/
def charEscape (c : Char) (ws : List Written) : Read Nat :=
  match controlEscape? c with
  | some n => some (n, ws)
  | none =>
    if c = 'x' then hexCode 2 ws
    else if c = 'u' then hexCode 4 ws
    else if c = 'U' then hexCode 8 ws
    else if c.isAlphanum then none
    else some (c.toNat, ws)

/-- An item of a class that starts with a backslash. -/
def readClassEscape (c : Char) (ws : List Written) : Read ClassItem :=
  match classEscape? c with
  | some item => some (item, ws)
  | none =>
    if c = 'b' then some (.code 8, ws)
    else if isOctal c then
      let (digits, rest) := takePlain isOctal 2 ws
      let code := ofDigits 8 (c :: digits)
      if code ≤ 0xFF then some (.code code, rest) else none
    else (charEscape c ws).map fun (n, rest) => (.code n, rest)

/-- One character or escape of a class. -/
def readClassUnit (w : Written) (ws : List Written) : Read ClassItem :=
  if w.escaped then readClassEscape w.char ws else some (.code w.char.toNat, ws)

/-- The items of a class up to its closing bracket, which is an item itself if it comes first.
`fuel` is the number of characters left. -/
def readClassItems : (fuel : Nat) → (items : List ClassItem) → List Written →
    Option (List ClassItem × List Written)
  | fuel + 1, items, w :: ws =>
    if w.is ']' && !items.isEmpty then some (items, ws)
    else do
      let (item, rest) ← readClassUnit w ws
      match rest with
      | dash :: rest' =>
        if dash.is '-' then
          match rest' with
          | [] => none
          | v :: rest'' =>
            if v.is ']' then some (items ++ [item, .code '-'.toNat], rest'')
            else
              match item, ← readClassUnit v rest'' with
              | .code first, (.code last, rest''') =>
                if first ≤ last then readClassItems fuel (items ++ [.range first last]) rest''' else none
              | _, _ => none
        else readClassItems fuel (items ++ [item]) rest
      | [] => none
  | _, _, _ => none

/-- A class, after its opening bracket. An item that is written again adds nothing. -/
def readClass (ws : List Written) : Read Lexeme :=
  let (negated, rest) := match ws with
    | w :: rest => if w.is '^' then (true, rest) else (false, ws)
    | [] => (false, [])
  (readClassItems rest.length [] rest).map fun (items, rest') =>
    (.one ⟨items.eraseDups, negated⟩, rest')

/-- An escape outside of a class. Three octal digits give a character. -/
def readEscape (c : Char) (ws : List Written) : Read Lexeme :=
  match classEscape? c with
  | some item => some (.one ⟨[item], false⟩, ws)
  | none =>
    if c = 'A' then some (.anchor .textStart, ws)
    else if c = 'Z' then some (.anchor .textEnd, ws)
    else if c = 'b' then some (.anchor .boundary, ws)
    else if c = 'B' then some (.anchor .noBoundary, ws)
    else if c = '0' then
      let (digits, rest) := takePlain isOctal 2 ws
      some (literal (ofDigits 8 digits), rest)
    else if c.isDigit then
      let (digits, rest) := takePlain isOctal 2 ws
      let code := ofDigits 8 (c :: digits)
      if isOctal c && digits.length = 2 && code ≤ 0xFF then some (literal code, rest) else none
    else (charEscape c ws).map fun (n, rest) => (literal n, rest)

/-- The mark after a count that says what is tried first. -/
def readAppetite (ws : List Written) : Appetite × List Written :=
  match ws with
  | w :: rest =>
    if w.is '?' then (.reluctant, rest) else if w.is '+' then (.possessive, rest) else (.greedy, ws)
  | [] => (.greedy, [])

def readCount (least : Nat) (most : Option Nat) (ws : List Written) : Read Lexeme :=
  let (appetite, rest) := readAppetite ws
  some (.count least most appetite, rest)

/-- A count in braces, after the opening brace. A brace that starts no count stands for itself. -/
def readBraces (ws : List Written) : Read Lexeme :=
  let brace := some (literal '\x7b'.toNat, ws)
  if ws.head?.any (·.is '\x7d') then brace
  else
    let (low, rest) := takeAllPlain Char.isDigit ws
    let (high, rest) := match rest with
      | w :: rest' => if w.is ',' then takeAllPlain Char.isDigit rest' else (low, rest)
      | [] => (low, rest)
    match rest with
    | w :: rest' =>
      if w.is '\x7d' then
        let least := ofDigits 10 low
        let most := if high.isEmpty then none else some (ofDigits 10 high)
        if most.any (· < least) then none else readCount least most rest'
      else brace
    | [] => brace

/-- The name of a group, up to the closing angle bracket. -/
def readGroupName (ws : List Written) : Read Lexeme :=
  let (name, rest) := takeAllPlain (fun c => Text.isWord c) ws
  match name, rest with
  | first :: _, w :: rest' =>
    if w.is '>' && !Text.isDecimal first then
      some (.opening (.capture (some (String.ofList name))), rest')
    else none
  | _, _ => none

/-- The flags to turn off in a group, up to the colon. -/
def readFlagsOff (on : PatternFlags) : PatternFlags → List Written → Read Lexeme
  | off, w :: ws =>
    if w.is ':' then
      if off = {} || off.without on ≠ off then none else some (.opening (.flagged on off), ws)
    else if w.escaped then none
    else (off.add? w.char).bind fun off' => readFlagsOff on off' ws
  | _, [] => none

/-- Flags, for the whole pattern if a parenthesis closes them, or else for the group that they open.
The letter for Unicode text may stand among them and changes nothing. -/
def readFlags : PatternFlags → List Written → Read Lexeme
  | on, w :: ws =>
    if w.is ')' then some (.flags on, ws)
    else if w.is ':' then some (.opening (.flagged on {}), ws)
    else if w.is '-' then readFlagsOff on {} ws
    else if w.is 'u' then readFlags on ws
    else if w.escaped then none
    else (on.add? w.char).bind fun on' => readFlags on' ws
  | _, [] => none

/-- What follows an opening parenthesis with a question mark. -/
def readExtension (ws : List Written) : Read (Option Lexeme) :=
  let group (kind : GroupKind) (rest : List Written) : Read (Option Lexeme) :=
    some (some (.opening kind), rest)
  match ws with
  | [] => none
  | w :: rest =>
    if w.is ':' then group .plain rest
    else if w.is '=' then group (.ahead false) rest
    else if w.is '!' then group (.ahead true) rest
    else if w.is '>' then group .atomic rest
    else if w.is '#' then
      match rest.dropWhile fun v => !v.is ')' with
      | [] => none
      | _ :: rest' => some (none, rest')
    else if w.is '<' then
      match rest with
      | v :: rest' =>
        if v.is '=' then group (.behind false) rest'
        else if v.is '!' then group (.behind true) rest'
        else none
      | [] => none
    else if w.is 'P' then
      match rest with
      | v :: rest' =>
        if v.is '<' then (readGroupName rest').map fun (l, rest'') => (some l, rest'') else none
      | [] => none
    else if w.is ')' then none
    else (readFlags {} ws).map fun (l, rest') => (some l, rest')

/-- The next lexeme, if it is no comment. -/
def read (w : Written) (ws : List Written) : Read (Option Lexeme) :=
  let give (r : Read Lexeme) : Read (Option Lexeme) := r.map fun (l, rest) => (some l, rest)
  if w.escaped then give (readEscape w.char ws)
  else
    match w.char with
    | '.' => give (some (.any, ws))
    | '^' => give (some (.lineStart, ws))
    | '$' => give (some (.lineEnd, ws))
    | '|' => give (some (.bar, ws))
    | ')' => give (some (.closing, ws))
    | '?' => give (readCount 0 (some 1) ws)
    | '*' => give (readCount 0 none ws)
    | '+' => give (readCount 1 none ws)
    | '\x7b' => give (readBraces ws)
    | '[' => give (readClass ws)
    | '(' =>
      match ws with
      | v :: rest =>
        if v.is '?' then readExtension rest else give (some (.opening (.capture none), ws))
      | [] => give (some (.opening (.capture none), ws))
    | c => give (some (literal c.toNat, ws))

/-- Reads all lexemes; each takes a character at least, so the number of characters is enough fuel. -/
def readAll : (fuel : Nat) → List Written → Option (List Lexeme)
  | _, [] => some []
  | 0, _ => none
  | fuel + 1, w :: ws => do
    let (lexeme, rest) ← read w ws
    return lexeme.toList ++ (← readAll fuel rest)

/-- The lexemes of a written pattern. -/
def ofText? (text : String) : Option (List Lexeme) := do
  let ws ← Written.ofChars text.toList
  readAll ws.length ws

end Lexeme

end AttrHoist
