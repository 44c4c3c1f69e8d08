/-!
# Sets of characters given by ranges of code points

* `CharSet` : a list of closed ranges;
* `CharSet.contains` : membership, by comparing code points.

The standard classes of characters (blank, printable and word characters) are values of this type.
-/

namespace Bringup

/-- A set of characters, as closed ranges of code points. -/
structure CharSet where
  ranges : List (Nat × Nat)

namespace CharSet

/-- A character belongs to the set when its code point lies in one of the ranges. -/
def contains (s : CharSet) (c : Char) : Bool :=
  s.ranges.any fun r => r.1 ≤ c.toNat && c.toNat ≤ r.2

theorem contains_eq_true_iff {s : CharSet} {c : Char} :
    s.contains c = true ↔ ∃ r ∈ s.ranges, r.1 ≤ c.toNat ∧ c.toNat ≤ r.2 := by
  simp [contains]

end CharSet

end Bringup
