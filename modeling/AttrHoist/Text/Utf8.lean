/-!
Reading bytes as text. `decode` gives the characters of well-formed UTF-8 or the first place where
the bytes are not: the longest piece there that a longer sequence could have started with, and why
it ends.
-/

namespace AttrHoist.Text

/-- Why bytes are not well formed. -/
inductive FlawReason where
  | invalidStart
  | invalidContinuation
  | unexpectedEnd
  deriving DecidableEq, Repr

/-- A place where bytes are not well formed. -/
structure Flaw where
  position : Nat
  /-- The bytes at fault; there is at least one. -/
  bytes : List UInt8
  reason : FlawReason
  deriving Repr

/-- A character of which some bytes are still to come. -/
structure Pending where
  /-- The bytes so far, in order. -/
  seen : List UInt8
  code : Nat
  /-- How many bytes are to come. -/
  owed : Nat
  /-- The least and the greatest byte that can come next. -/
  low : Nat := 0x80
  high : Nat := 0xBF

/-- A first byte of a longer character and what it asks for. The second byte is bounded so that
neither overlong forms nor surrogates nor code points beyond the last one are well formed. -/
def Pending.ofLead? (b : UInt8) : Option Pending :=
  let n := b.toNat
  if 0xC2 ≤ n && n ≤ 0xDF then some { seen := [b], code := n - 0xC0, owed := 1 }
  else if n = 0xE0 then some { seen := [b], code := 0, owed := 2, low := 0xA0 }
  else if n = 0xED then some { seen := [b], code := 0xD, owed := 2, high := 0x9F }
  else if 0xE1 ≤ n && n ≤ 0xEF then some { seen := [b], code := n - 0xE0, owed := 2 }
  else if n = 0xF0 then some { seen := [b], code := 0, owed := 3, low := 0x90 }
  else if 0xF1 ≤ n && n ≤ 0xF3 then some { seen := [b], code := n - 0xF0, owed := 3 }
  else if n = 0xF4 then some { seen := [b], code := 4, owed := 3, high := 0x8F }
  else none

/-- Decodes bytes from a position on. `read` holds the characters so far, last first. -/
def decodeFrom (read : List Char) : Nat → Option Pending → List UInt8 → Except Flaw (List Char)
  | _, none, [] => .ok read.reverse
  | pos, some p, [] => .error ⟨pos - p.seen.length, p.seen, .unexpectedEnd⟩
  | pos, none, b :: bs =>
    if b.toNat < 0x80 then decodeFrom (Char.ofNat b.toNat :: read) (pos + 1) none bs
    else match Pending.ofLead? b with
      | some p => decodeFrom read (pos + 1) (some p) bs
      | none => .error ⟨pos, [b], .invalidStart⟩
  | pos, some p, b :: bs =>
    if p.low ≤ b.toNat && b.toNat ≤ p.high then
      let code := p.code * 0x40 + (b.toNat - 0x80)
      if p.owed ≤ 1 then decodeFrom (Char.ofNat code :: read) (pos + 1) none bs
      else decodeFrom read (pos + 1) (some { seen := p.seen ++ [b], code, owed := p.owed - 1 }) bs
    else .error ⟨pos - p.seen.length, p.seen, .invalidContinuation⟩

/-- The text that bytes stand for. -/
def decode (bytes : ByteArray) : Except Flaw String :=
  (decodeFrom [] 0 none bytes.toList).map String.ofList

/-- Line breaks of every style as a single line feed. -/
def unifyBreaks : List Char → List Char
  | '\r' :: '\n' :: rest => '\n' :: unifyBreaks rest
  | '\r' :: rest => '\n' :: unifyBreaks rest
  | c :: rest => c :: unifyBreaks rest
  | [] => []

end AttrHoist.Text
