import Bringup.Number.Shortest

/-!
# Decimals with a given number of places or digits

* `Binary64.fixed?` : so many places after the point, the exact value rounded half to even;
* `Binary64.scientific?` : one digit, so many after it, and an exponent;
* `Binary64.general?` : so many digits in all, in the shorter of the two forms.

`none` stands for a number that is not finite.
-/

namespace Bringup

namespace Binary64

/-- The digits of `n` with a point before the last `places` of them. -/
def pointed (places n : Nat) : List Char :=
  let ds := paddedDigits (places + 1) n
  let whole := ds.take (ds.length - places)
  whole ++ (if places = 0 then [] else '.' :: ds.drop (ds.length - places))

/-- The absolute value with `places` digits after the point. -/
def fixed? (places : Nat) (x : Binary64) : Option (List Char) :=
  x.ratio?.map fun (num, den) => pointed places (roundHalfEven (num * tenTo places) den)

/-- The value with its sign and `places` digits after the point; a text of its name where it has none. -/
def fixedText (places : Nat) (x : Binary64) : String :=
  match x.fixed? places with
  | some cs => String.ofList (if x.negative then '-' :: cs else cs)
  | none => x.text .plain

/-- The absolute value rounded to `places + 1` digits: the digits, and the weight of the first. -/
def rounded? (places : Nat) (x : Binary64) : Option (Nat × Int) :=
  x.ratio?.map fun (num, den) =>
    if num = 0 then (0, 0)
    else
      let e := decimalPoint num den - 1
      let (n, d) := onGrid num den (e - places)
      let m := roundHalfEven n d
      if m = tenTo (places + 1) then (tenTo places, e + 1) else (m, e)

/-- Digits with a point at their end, when there is no other and `wanted` asks for one. -/
def withPoint (wanted : Bool) (cs : List Char) : List Char :=
  if wanted && !cs.contains '.' then cs ++ ['.'] else cs

/-- One digit before the point and `places` after it, with an exponent; `point` keeps the point even
when nothing follows it. -/
def scientific? (point : Bool) (places : Nat) (x : Binary64) : Option (List Char) :=
  (x.rounded? places).map fun (m, e) =>
    withPoint point (pointed places m) ++ 'e' :: exponentText 2 e

/-- Digits after a point without the zeros at their end, nor the point when none is left. -/
def dropFraction (cs : List Char) : List Char :=
  if '.' ∈ cs then ((cs.reverse.dropWhile (· = '0')).dropWhile (· = '.')).reverse else cs

/-- `count` digits in all (at least one): written out when the first has the weight `10^-4` up to
`10^(count - 1)`, else with an exponent; zeros at the end of the fraction are dropped, unless `point`
asks to keep them and the point. -/
def general? (point : Bool) (count : Nat) (x : Binary64) : Option (List Char) :=
  let count := max count 1
  let trimmed (cs : List Char) : List Char := if point then withPoint true cs else dropFraction cs
  (x.rounded? (count - 1)).map fun (m, e) =>
    if -4 ≤ e ∧ e < count then trimmed (pointed ((count : Int) - 1 - e).toNat m)
    else trimmed (pointed (count - 1) m) ++ 'e' :: exponentText 2 e

end Binary64

end Bringup
