/-!
# Rounding a quotient

* `tenTo n` : the power of ten with `n` zeros;
* `roundHalfEven num den` : the whole number nearest to `num / den`; half way, the even neighbour.
-/

namespace Bringup

/-- A one with `n` zeros after it. -/
def tenTo (n : Nat) : Nat := Nat.pow 10 n

/-- The whole number nearest to `num / den`; half way between two, the even one. -/
def roundHalfEven (num den : Nat) : Nat :=
  let q := num / den
  let r := num % den
  if 2 * r < den then q
  else if den < 2 * r then q + 1
  else if q % 2 = 0 then q
  else q + 1

end Bringup
