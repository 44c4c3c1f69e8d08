import Bringup.Number.Rounding

/-!
# Floating-point numbers of 64 bits

* `Binary64` : a sign and the 63 bits below it, read as one number (`magnitude`);
* `Binary64.parts?` : a finite number as `m · 2^q`;
* `Binary64.ofRatio`, `Binary64.ofScientific` : the number nearest to a quotient, or to a decimal;
* `Binary64.equal` : equality of the values, so that the two zeros are equal and a NaN equals nothing;
* `Binary64.truncate?`, `Binary64.floor?` : the whole part, toward zero or downward.

Everything is exact arithmetic on whole numbers.  The 63 bits are the exponent field times `2^52` plus
the fraction field, so magnitudes are in the order of the values and the next number up has the next
magnitude: rounding a fraction up to `2^53` carries into the exponent by plain addition.
-/

namespace Bringup

/-- A floating-point number in the interchange format of 64 bits. -/
structure Binary64 where
  negative : Bool
  magnitude : Nat
  magnitude_lt : magnitude < 1 <<< 63
  deriving DecidableEq

namespace Binary64

/-- The weight of the exponent field. -/
def exponentUnit : Nat := 1 <<< 52

/-- The magnitude of the infinities; every greater one is a NaN. -/
def infinityMagnitude : Nat := 2047 * exponentUnit

/-- Infinity of the given sign. -/
def infinity (negative : Bool) : Binary64 :=
  ⟨negative, infinityMagnitude, by decide⟩

/-- The NaN that reading produces. -/
def nan : Binary64 :=
  ⟨false, infinityMagnitude + 1 <<< 51, by decide⟩

/-- Zero of the given sign. -/
def zero (negative : Bool) : Binary64 := ⟨negative, 0, by decide⟩

/-- Not a number. -/
def isNan (x : Binary64) : Bool := infinityMagnitude < x.magnitude

/-- Neither infinite nor a NaN. -/
def isFinite (x : Binary64) : Bool := x.magnitude < infinityMagnitude

/-- The absolute value of a finite number as `m · 2^q`. -/
def parts? (x : Binary64) : Option (Nat × Int) :=
  if x.isFinite then
    if x.magnitude < exponentUnit then some (x.magnitude, -1074)
    else
      some (x.magnitude % exponentUnit + exponentUnit, (x.magnitude / exponentUnit : Nat) - 1075)
  else none

/-- The absolute value of a finite number as a quotient. -/
def ratio? (x : Binary64) : Option (Nat × Nat) :=
  x.parts?.map fun (m, q) => (m <<< q.toNat, 1 <<< (-q).toNat)

/-- The number of the given magnitude, or infinity when it is too great for a finite one. -/
def ofMagnitude (negative : Bool) (magnitude : Nat) : Binary64 :=
  if h : magnitude < infinityMagnitude then
    ⟨negative, magnitude, Nat.lt_trans h (by decide)⟩
  else infinity negative

/-- The greatest `e` with `2^e ≤ num / den`. -/
def log2Ratio (num den : Nat) : Int :=
  let e : Int := (Nat.log2 num : Int) - Nat.log2 den
  if den <<< e.toNat ≤ num <<< (-e).toNat then e else e - 1

/-- The number nearest to `num / den`; half way between two, the one with an even magnitude. -/
def ofRatio (negative : Bool) (num den : Nat) : Binary64 :=
  if num = 0 then zero negative
  else
    let q : Int := max (log2Ratio num den - 52) (-1074)
    let m := roundHalfEven (num <<< (-q).toNat) (den <<< q.toNat)
    ofMagnitude negative ((q + 1074).toNat * exponentUnit + m)

/-- How many digits `n` has in base ten. -/
def decimalLength (n : Nat) : Nat := (Nat.toDigits 10 n).length

/-- The number nearest to `digits · 10^exponent`.  Decimals beyond the range of the format are infinite
or zero without being computed. -/
def ofScientific (negative : Bool) (digits : Nat) (exponent : Int) : Binary64 :=
  if digits = 0 then zero negative
  else if 310 < decimalLength digits + exponent then infinity negative
  else if decimalLength digits + exponent < -330 then zero negative
  else ofRatio negative (digits * tenTo exponent.toNat) (tenTo (-exponent).toNat)

/-- The number nearest to a whole number. -/
def ofInt (n : Int) : Binary64 := ofRatio (n < 0) n.natAbs 1

/-- Equality of values: the zeros are equal, a NaN is equal to nothing. -/
def equal (x y : Binary64) : Bool :=
  !x.isNan && x.magnitude == y.magnitude && (x.negative == y.negative || x.magnitude == 0)

/-- The value is the whole number `n`. -/
def equalInt (x : Binary64) (n : Int) : Bool :=
  match x.ratio? with
  | none => false
  | some (num, den) => num == n.natAbs * den && (x.negative == decide (n < 0) || num == 0)

/-- The whole part, toward zero; `none` when there is none. -/
def truncate? (x : Binary64) : Option Int :=
  x.ratio?.map fun (num, den) =>
    if x.negative then -((num / den : Nat) : Int) else ((num / den : Nat) : Int)

/-- The greatest whole number that is not above the value; `none` when there is none. -/
def floor? (x : Binary64) : Option Int :=
  x.ratio?.map fun (num, den) =>
    if x.negative then -((num : Int) / den) - (if num % den = 0 then 0 else 1)
    else (num / den : Nat)

/-- A finite number without a fraction. -/
def isWhole (x : Binary64) : Bool :=
  match x.ratio? with
  | none => false
  | some (num, den) => num % den == 0

theorem den_pos {x : Binary64} {num den : Nat} (h : x.ratio? = some (num, den)) : 0 < den := by
  obtain ⟨⟨m, q⟩, -, hq⟩ := Option.map_eq_some_iff.1 h
  obtain ⟨-, rfl⟩ := Prod.mk.inj hq
  rw [Nat.one_shiftLeft]
  exact Nat.two_pow_pos _

end Binary64

end Bringup
