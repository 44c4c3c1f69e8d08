import Bringup.Text.Printable

/-!
# Quoted text

* `quote` : a text between quotes, with escapes for what would not show as itself;
* `escapeBeyondAscii` : characters outside ASCII by their code points.

The quotes are single, unless the text holds a single quote and no double one.  The quote in use and
the backslash are escaped by a backslash; line feed, carriage return and tab have a letter; every other
character that is not to be kept is written by its code point in two, four or eight hexadecimal digits.
-/

namespace Bringup

/-- The digits of `n` in lower-case hexadecimal, filled with zeros to `width`. -/
def hexText (width n : Nat) : List Char :=
  let ds := Nat.toDigits 16 n
  List.replicate (width - ds.length) '0' ++ ds

/-- A character by its code point. -/
def codePointText (c : Char) : List Char :=
  if c.toNat < 0x100 then '\\' :: 'x' :: hexText 2 c.toNat
  else if c.toNat < 0x10000 then '\\' :: 'u' :: hexText 4 c.toNat
  else '\\' :: 'U' :: hexText 8 c.toNat

/-- One character inside quotes `q`. -/
def quoteChar (q c : Char) : List Char :=
  if c = q ∨ c = '\\' then ['\\', c]
  else if c = '\n' then ['\\', 'n']
  else if c = '\r' then ['\\', 'r']
  else if c = '\t' then ['\\', 't']
  else if isPrintable c then [c]
  else codePointText c

/-- The quote that `cs` is written in. -/
def quoteMark (cs : List Char) : Char :=
  if '\'' ∈ cs ∧ '"' ∉ cs then '"' else '\''

/-- A text between quotes; what is not printable is escaped. -/
def quote (s : String) : String :=
  let q := quoteMark s.toList
  String.ofList (q :: s.toList.flatMap (quoteChar q) ++ [q])

/-- The same text with characters outside ASCII written by their code points. -/
def escapeBeyondAscii (cs : List Char) : List Char :=
  cs.flatMap fun c => if c.toNat < 0x80 then [c] else codePointText c

end Bringup
