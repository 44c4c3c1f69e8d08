import Bringup.Text.CharSet

/-!
# Blank characters

* `isBlank` : white space together with the four information separators;
* `isWhiteSpace` : the Unicode property `White_Space` alone;
* `trimList` : characters without those of a class at the two ends;
* `isBlankText` : a text that nothing but blanks fill, the empty text included.
-/

namespace Bringup

/-- The Unicode property `White_Space`. -/
def whiteSpace : CharSet :=
  ⟨[(0x09, 0x0D), (0x20, 0x20), (0x85, 0x85), (0xA0, 0xA0), (0x1680, 0x1680), (0x2000, 0x200A),
    (0x2028, 0x2029), (0x202F, 0x202F), (0x205F, 0x205F), (0x3000, 0x3000)]⟩

/-- A character with the property `White_Space`. -/
def isWhiteSpace (c : Char) : Bool := whiteSpace.contains c

/-- White space, or one of the information separators U+001C to U+001F. -/
def isBlank (c : Char) : Bool :=
  isWhiteSpace c || (0x1C ≤ c.toNat && c.toNat ≤ 0x1F)

/-- The characters left after those of class `p` are taken off both ends. -/
def trimList (p : Char → Bool) (cs : List Char) : List Char :=
  ((cs.dropWhile p).reverse.dropWhile p).reverse

/-- Nothing but blanks: the empty text counts. -/
def isBlankText (s : String) : Bool := s.toList.all isBlank

theorem isBlankText_eq_true_iff {s : String} :
    isBlankText s = true ↔ ∀ c ∈ s.toList, isBlank c = true := by
  simp [isBlankText]

end Bringup
