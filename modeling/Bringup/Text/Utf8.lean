/-!
# Reading UTF-8

* `decodeUtf8` : the characters of a sequence of bytes, or the first stretch that is no character;
* `Utf8Error` : that stretch, and in which of three ways it fails.

A lead byte fixes how many bytes follow and the range of the first of them (`Utf8.lead?`); the others
lie between 0x80 and 0xBF.  A stretch that breaks off inside a character ends before the byte that does
not fit, or with the input.
-/

namespace Bringup

/-- Why a stretch of bytes is no character. -/
inductive Utf8Fault where
  | badStart
  | badContinuation
  | cutShort
  deriving DecidableEq, Repr

/-- The bytes from `first` up to `stop` (excluded), led by `lead`, are no character. -/
structure Utf8Error where
  fault : Utf8Fault
  first : Nat
  stop : Nat
  lead : UInt8
  deriving DecidableEq, Repr

namespace Utf8

/-- What a lead byte of several announces: the bits it holds, how many bytes follow, and the range of
the first of them. -/
structure Lead where
  bits : Nat
  tails : Nat
  low : UInt8
  high : UInt8

/-- The lead bytes; `none` for a byte that begins no character of several bytes. -/
def lead? (b : UInt8) : Option Lead :=
  if b < 0xC2 then none
  else if b < 0xE0 then some ⟨b.toNat - 0xC0, 1, 0x80, 0xBF⟩
  else if b < 0xF0 then
    some ⟨b.toNat - 0xE0, 2, if b = 0xE0 then 0xA0 else 0x80, if b = 0xED then 0x9F else 0xBF⟩
  else if b < 0xF5 then
    some ⟨b.toNat - 0xF0, 3, if b = 0xF0 then 0x90 else 0x80, if b = 0xF4 then 0x8F else 0xBF⟩
  else none

/-- A character that has begun: its lead byte and place, the bits so far, the bytes taken and owed, and
the range of the next one. -/
structure Pending where
  lead : UInt8
  first : Nat
  bits : Nat
  taken : Nat
  owed : Nat
  low : UInt8
  high : UInt8

/-- Reads from offset `pos`, between characters or inside the one that is pending. -/
def decodeFrom : Option Pending → Nat → List UInt8 → Except Utf8Error (List Char)
  | none, _, [] => .ok []
  | some p, pos, [] => .error ⟨.cutShort, p.first, pos, p.lead⟩
  | none, pos, b :: bs =>
    if b < 0x80 then (Char.ofNat b.toNat :: ·) <$> decodeFrom none (pos + 1) bs
    else
      match lead? b with
      | none => .error ⟨.badStart, pos, pos + 1, b⟩
      | some l => decodeFrom (some ⟨b, pos, l.bits, 1, l.tails, l.low, l.high⟩) (pos + 1) bs
  | some p, pos, b :: bs =>
    if b < p.low ∨ p.high < b then .error ⟨.badContinuation, p.first, p.first + p.taken, p.lead⟩
    else
      let bits := p.bits * 64 + (b.toNat - 0x80)
      if p.owed ≤ 1 then (Char.ofNat bits :: ·) <$> decodeFrom none (pos + 1) bs
      else
        decodeFrom (some { p with
          bits := bits, taken := p.taken + 1, owed := p.owed - 1, low := 0x80, high := 0xBF })
          (pos + 1) bs

end Utf8

/-- The characters that the bytes spell, or the first stretch that is no character. -/
def decodeUtf8 (bytes : List UInt8) : Except Utf8Error (List Char) :=
  Utf8.decodeFrom none 0 bytes

end Bringup
