import Bringup.Number.Binary64

/-!
# The shortest decimal of a floating-point number

* `Decimal` : `digits · 10^exponent`;
* `Binary64.shortest?` : the decimal with the fewest digits that reads back as the number, and of those
  the nearest to it;
* `FloatText`, `Binary64.text` : how such a decimal is laid out.

For one digit, two, … seventeen, the two neighbours of the value on the grid of that many digits are
read back (`Binary64.ofScientific`); the first grid with a hit decides, and of two hits the nearer.
Seventeen digits always suffice; the exact decimal of the value stands behind them.
-/

namespace Bringup

/-- The number `digits · 10^exponent`. -/
structure Decimal where
  digits : Nat
  exponent : Int
  deriving DecidableEq, Repr

namespace Decimal

/-- The same number without final zeros among the digits; at most `fuel` are taken off. -/
def dropZeros : Nat → Decimal → Decimal
  | 0, d => d
  | fuel + 1, d =>
    if d.digits ≠ 0 ∧ d.digits % 10 = 0 then dropZeros fuel ⟨d.digits / 10, d.exponent + 1⟩ else d

/-- The same number without final zeros among the digits. -/
def normalize (d : Decimal) : Decimal := dropZeros (Binary64.decimalLength d.digits) d

end Decimal

namespace Binary64

/-- The least `k` with `num / den < 10^k`. -/
def decimalPoint (num den : Nat) : Int :=
  let k : Int := (decimalLength num : Int) - decimalLength den
  if num * tenTo (-k).toNat < den * tenTo k.toNat then k else k + 1

/-- The value `num / den` in units of `10^exponent`, as a quotient. -/
def onGrid (num den : Nat) (exponent : Int) : Nat × Nat :=
  (num * tenTo (-exponent).toNat, den * tenTo exponent.toNat)

/-- The neighbour on the grid of `count` digits that reads back, if one does; of two, the nearer, and
half way between them the even one. -/
def hit? (x : Binary64) (num den : Nat) (count : Nat) : Option Decimal :=
  let exponent := decimalPoint num den - count
  let (n, d) := onGrid num den exponent
  let low : Decimal := ⟨n / d, exponent⟩
  let high : Decimal := ⟨n / d + 1, exponent⟩
  let reads (c : Decimal) : Bool := ofScientific x.negative c.digits c.exponent == x
  match reads low, reads high with
  | true, true => some ⟨roundHalfEven n d, exponent⟩
  | true, false => some low
  | false, true => some high
  | false, false => none

/-- The exact value of `m · 2^q` as a decimal. -/
def exactDecimal (m : Nat) (q : Int) : Decimal :=
  if 0 ≤ q then ⟨m <<< q.toNat, 0⟩ else ⟨m * Nat.pow 5 (-q).toNat, q⟩

/-- The decimal with the fewest digits that reads back, and of those the nearest; `none` for a number
that is not finite. -/
def shortest? (x : Binary64) : Option Decimal :=
  match x.parts?, x.ratio? with
  | some (m, q), some (num, den) =>
    if num = 0 then some ⟨0, 0⟩
    else
      let found := (List.range' 1 17).findSome? (hit? x num den)
      some ((found.getD (exactDecimal m q)).normalize)
  | _, _ => none

end Binary64

/-- How a decimal is laid out: the range of positions of the decimal point that are written out, the
least number of digits in an exponent, and the texts of what is not finite. -/
structure FloatText where
  leastPoint : Int
  greatestPoint : Int
  exponentDigits : Nat
  nan : String
  infinity : String

namespace FloatText

/-- A number whose first digit has the weight `10^-4` up to `10^15` is written out, with at least one
digit after the point; any other has an exponent with a sign and at least two digits. -/
def plain : FloatText := ⟨-3, 16, 2, "nan", "inf"⟩

/-- The same layout with the names that JSON readers know. -/
def json : FloatText := { plain with nan := "NaN", infinity := "Infinity" }

end FloatText

/-- The digits of `n` filled with zeros to `width`. -/
def paddedDigits (width n : Nat) : List Char :=
  let ds := Nat.toDigits 10 n
  List.replicate (width - ds.length) '0' ++ ds

/-- An exponent with its sign. -/
def exponentText (width : Nat) (e : Int) : List Char :=
  (if e < 0 then '-' else '+') :: paddedDigits width e.natAbs

/-- A decimal in a layout: written out, or with one digit before the point and an exponent. -/
def FloatText.decimal (f : FloatText) (d : Decimal) : List Char :=
  let ds := Nat.toDigits 10 d.digits
  let point : Int := if d.digits = 0 then 1 else ds.length + d.exponent
  if f.leastPoint ≤ point ∧ point ≤ f.greatestPoint then
    if point ≤ 0 then '0' :: '.' :: (List.replicate (-point).toNat '0' ++ ds)
    else
      let whole := ds.take point.toNat
      let zeros := List.replicate (point.toNat - ds.length) '0'
      let fraction := ds.drop point.toNat
      whole ++ zeros ++ '.' :: (if fraction.isEmpty then ['0'] else fraction)
  else
    let tail := ds.drop 1
    ds.take 1 ++ (if tail.isEmpty then [] else '.' :: tail)
      ++ 'e' :: exponentText f.exponentDigits (point - 1)

/-- The text of a number in a layout. -/
def Binary64.text (f : FloatText) (x : Binary64) : String :=
  match x.shortest? with
  | some d => String.ofList ((if x.negative then ['-'] else []) ++ f.decimal d)
  | none =>
    if x.isNan then f.nan else if x.negative then "-" ++ f.infinity else f.infinity

end Bringup
