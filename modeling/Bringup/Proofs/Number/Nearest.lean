import Bringup.Number.Shortest
import Mathlib.Algebra.Order.Field.Power
import Mathlib.Algebra.Order.Floor.Semifield
import Mathlib.Data.Int.Log
import Mathlib.Data.Rat.Floor
import Mathlib.Tactic.FieldSimp
import Mathlib.Tactic.NormNum
import Mathlib.Tactic.Positivity
import Mathlib.Tactic.Ring

/-!
# Reading a number goes by its value

* `roundHalfEven_congr`, `Binary64.log2Ratio_eq_log` : rounding a quotient, and its weight, depend on its value
  only, not on how it is spelled;
* `Binary64.ofRatio_congr`, `Binary64.ofRatio_parts` : so does reading it, and a quotient with the value of a
  number is read as this number;
* `Binary64.exists_parts` : a finite number is made of its parts again.

The values are rational numbers, and the weights their logarithms.
-/

namespace Bringup

variable {num den num' den' m n k : Nat} {q e : Int} {negative : Bool}

/-! ### Rounding -/

theorem roundHalfEven_mul_left (hk : 0 < k) :
    roundHalfEven (k * num) (k * den) = roundHalfEven num den := by
  have hleft : 2 * (k * (num % den)) = k * (2 * (num % den)) := by ring
  unfold roundHalfEven
  simp only [Nat.mul_div_mul_left _ _ hk, Nat.mul_mod_mul_left, hleft, Nat.mul_lt_mul_left hk]

/-- Quotients of one value are rounded alike. -/
theorem roundHalfEven_congr (hden : 0 < den) (hden' : 0 < den')
    (h : (num : ℚ) / den = num' / den') : roundHalfEven num den = roundHalfEven num' den' := by
  have hcross : num * den' = num' * den := by
    rw [div_eq_div_iff (by positivity) (by positivity)] at h
    exact_mod_cast h
  calc roundHalfEven num den = roundHalfEven (den' * num) (den' * den) :=
        (roundHalfEven_mul_left hden').symm
    _ = roundHalfEven (den * num') (den * den') := by
        rw [Nat.mul_comm den' num, hcross, Nat.mul_comm num' den, Nat.mul_comm den' den]
    _ = roundHalfEven num' den' := roundHalfEven_mul_left hden

theorem roundHalfEven_one : roundHalfEven m 1 = m := by
  simp [roundHalfEven, Nat.mod_one]

/-- A power as a quotient of two powers, one of which is one. -/
theorem zpow_eq_toNat_div (b : ℚ) (e : Int) : b ^ e = b ^ e.toNat / b ^ (-e).toNat := by
  obtain ⟨n, rfl | rfl⟩ := e.eq_nat_or_neg
  · simp
  · simp

/-- A value between two powers of a base that follow each other has the weight of the lower one. -/
theorem log_eq_of_bounds {b : Nat} (hb : 1 < b) {r : ℚ} (hr : 0 < r) (hle : (b : ℚ) ^ e ≤ r)
    (hlt : r < (b : ℚ) ^ (e + 1)) : Int.log b r = e := by
  have hbelow := (Int.zpow_le_iff_le_log hb hr).1 hle
  have habove := (Int.lt_zpow_iff_log_lt hb hr).1 hlt
  omega

theorem log_mul_zpow {b : Nat} (hb : 1 < b) (hn : n ≠ 0) (e : Int) :
    Int.log b ((n : ℚ) * (b : ℚ) ^ e) = Nat.log b n + e := by
  have hb' : (0 : ℚ) < b := by exact_mod_cast (by omega : 0 < b)
  have hpow : (0 : ℚ) < (b : ℚ) ^ e := zpow_pos hb' e
  have hn' : (0 : ℚ) < n := by exact_mod_cast Nat.pos_of_ne_zero hn
  have hle : (b : ℚ) ^ Nat.log b n ≤ n := by exact_mod_cast Nat.pow_log_le_self b hn
  have hlt : (n : ℚ) < (b : ℚ) ^ (Nat.log b n + 1) := by
    exact_mod_cast Nat.lt_pow_succ_log_self hb n
  refine log_eq_of_bounds hb (by positivity) ?_ ?_
  · rw [zpow_add₀ hb'.ne', zpow_natCast]
    exact mul_le_mul_of_nonneg_right hle hpow.le
  · rw [add_right_comm, zpow_add₀ hb'.ne', ← Nat.cast_succ, zpow_natCast]
    exact mul_lt_mul_of_pos_right hlt hpow

/-- The weights of the two parts leave two candidates for the weight of a quotient. -/
theorem ratio_bounds {b i j : Nat} (hb : 1 < b) (hden : 0 < den) (hnumle : b ^ i ≤ num)
    (hnumlt : num < b ^ (i + 1)) (hdenle : b ^ j ≤ den) (hdenlt : den < b ^ (j + 1)) :
    (b : ℚ) ^ ((i : Int) - j - 1) ≤ (num : ℚ) / den ∧
      (num : ℚ) / den < (b : ℚ) ^ ((i : Int) - j + 1) := by
  have hb' : (0 : ℚ) < b := by exact_mod_cast (by omega : 0 < b)
  have hden' : (0 : ℚ) < den := by exact_mod_cast hden
  have hnumle' : (b : ℚ) ^ i ≤ num := by exact_mod_cast hnumle
  have hnumlt' : (num : ℚ) < (b : ℚ) ^ (i + 1) := by exact_mod_cast hnumlt
  have hdenle' : (b : ℚ) ^ j ≤ den := by exact_mod_cast hdenle
  have hdenlt' : (den : ℚ) < (b : ℚ) ^ (j + 1) := by exact_mod_cast hdenlt
  constructor
  · have hpow : (b : ℚ) ^ ((i : Int) - j - 1) * (b : ℚ) ^ (j + 1) = (b : ℚ) ^ i := by
      rw [← zpow_natCast, ← zpow_natCast, ← zpow_add₀ hb'.ne']
      congr 1
      push_cast
      ring
    rw [le_div_iff₀ hden']
    calc (b : ℚ) ^ ((i : Int) - j - 1) * den
        ≤ (b : ℚ) ^ ((i : Int) - j - 1) * (b : ℚ) ^ (j + 1) := by gcongr
      _ ≤ num := hpow.le.trans hnumle'
  · have hpow : (b : ℚ) ^ ((i : Int) - j + 1) * (b : ℚ) ^ j = (b : ℚ) ^ (i + 1) := by
      rw [← zpow_natCast, ← zpow_natCast, ← zpow_add₀ hb'.ne']
      congr 1
      push_cast
      ring
    rw [div_lt_iff₀ hden']
    calc (num : ℚ) < (b : ℚ) ^ ((i : Int) - j + 1) * (b : ℚ) ^ j := hpow ▸ hnumlt'
      _ ≤ (b : ℚ) ^ ((i : Int) - j + 1) * den := by gcongr

namespace Binary64

theorem cast_shiftLeft (n k : Nat) : ((n <<< k : Nat) : ℚ) = n * 2 ^ k := by
  rw [Nat.shiftLeft_eq]
  push_cast
  ring

/-- The comparison with a shifted part is one with a power of two. -/
theorem shiftLeft_le_shiftLeft_iff (hden : 0 < den) (e : Int) :
    den <<< e.toNat ≤ num <<< (-e).toNat ↔ (2 : ℚ) ^ e ≤ (num : ℚ) / den := by
  have hden' : (0 : ℚ) < den := by exact_mod_cast hden
  have hpow : (0 : ℚ) < 2 ^ (-e).toNat := by positivity
  rw [zpow_eq_toNat_div, div_le_div_iff₀ hpow hden', ← Nat.cast_le (α := ℚ), cast_shiftLeft,
    cast_shiftLeft, mul_comm (den : ℚ)]

theorem log2Ratio_eq_log (hnum : num ≠ 0) (hden : 0 < den) :
    log2Ratio num den = Int.log 2 ((num : ℚ) / den) := by
  have hr : (0 : ℚ) < (num : ℚ) / den := by
    have : 0 < num := Nat.pos_of_ne_zero hnum
    positivity
  obtain ⟨hbelow, habove⟩ := ratio_bounds one_lt_two hden (Nat.log2_self_le hnum) Nat.lt_log2_self
    (Nat.log2_self_le hden.ne') Nat.lt_log2_self
  unfold log2Ratio
  dsimp only
  split
  · rename_i h
    rw [shiftLeft_le_shiftLeft_iff hden] at h
    exact (log_eq_of_bounds one_lt_two hr (by exact_mod_cast h) habove).symm
  · rename_i h
    rw [shiftLeft_le_shiftLeft_iff hden, not_le] at h
    refine (log_eq_of_bounds one_lt_two hr hbelow ?_).symm
    rw [sub_add_cancel]
    exact_mod_cast h

/-! ### Reading a quotient -/

/-- The weight of the last bit of the number that is nearest to a quotient. -/
def lastWeight (num den : Nat) : Int := max (log2Ratio num den - 52) (-1074)

theorem ofRatio_of_ne_zero (hnum : num ≠ 0) : ofRatio negative num den = ofMagnitude negative
    ((lastWeight num den + 1074).toNat * exponentUnit +
      roundHalfEven (num <<< (-lastWeight num den).toNat) (den <<< (lastWeight num den).toNat)) := by
  unfold ofRatio
  rw [if_neg hnum]
  rfl

/-- Shifting both parts multiplies the value by a power of two. -/
theorem roundHalfEven_shifted (hden : 0 < den) (hden' : 0 < den') (q : Int)
    (h : (num : ℚ) / den = num' / den' * 2 ^ q) :
    roundHalfEven (num <<< (-q).toNat) (den <<< q.toNat) = roundHalfEven num' den' := by
  have hshifted : 0 < den <<< q.toNat := by
    rw [Nat.shiftLeft_eq]
    positivity
  refine roundHalfEven_congr hshifted hden' ?_
  rw [cast_shiftLeft, cast_shiftLeft, mul_div_mul_comm, h, zpow_eq_toNat_div]
  field_simp

/-- Quotients of one value are read alike. -/
theorem ofRatio_congr (negative : Bool) (hden : 0 < den) (hden' : 0 < den')
    (h : (num : ℚ) / den = num' / den') : ofRatio negative num den = ofRatio negative num' den' := by
  have hcross : num * den' = num' * den := by
    rw [div_eq_div_iff (by positivity) (by positivity)] at h
    exact_mod_cast h
  have hzero : num = 0 ↔ num' = 0 := by
    constructor
    · rintro rfl
      simpa [hden.ne'] using hcross.symm
    · rintro rfl
      simpa [hden'.ne'] using hcross
  by_cases hnum : num = 0
  · rw [ofRatio, ofRatio, if_pos hnum, if_pos (hzero.1 hnum)]
  · have hnum' : num' ≠ 0 := fun h0 => hnum (hzero.2 h0)
    -- the weight of the last bit goes by the value alone, and so does the rounding
    have hweight : lastWeight num den = lastWeight num' den' := by
      rw [lastWeight, lastWeight, log2Ratio_eq_log hnum hden, log2Ratio_eq_log hnum' hden', h]
    rw [ofRatio_of_ne_zero hnum, ofRatio_of_ne_zero hnum', hweight]
    congr 2
    generalize lastWeight num' den' = q
    have hleft : 0 < den <<< q.toNat := by
      rw [Nat.shiftLeft_eq]
      positivity
    have hright : 0 < den' <<< q.toNat := by
      rw [Nat.shiftLeft_eq]
      positivity
    refine roundHalfEven_congr hleft hright ?_
    simp only [cast_shiftLeft, mul_div_mul_comm, h]

/-- A quotient of the value `m · 2^q`, in the range of the format, is read without loss. -/
theorem ofRatio_parts (hden : 0 < den) (hm : m ≠ 0) (hlt : m < 2 ^ 53) (hq : -1074 ≤ q)
    (hfull : q ≠ -1074 → 2 ^ 52 ≤ m) (h : (num : ℚ) / den = m * 2 ^ q) :
    ofRatio negative num den = ofMagnitude negative ((q + 1074).toNat * exponentUnit + m) := by
  have hnum : num ≠ 0 := by
    rintro rfl
    have hm' : (m : ℚ) ≠ 0 := by exact_mod_cast hm
    rw [Nat.cast_zero, zero_div] at h
    exact mul_ne_zero hm' (zpow_ne_zero q two_ne_zero) h.symm
  have hlog : log2Ratio num den = Nat.log 2 m + q := by
    rw [log2Ratio_eq_log hnum hden, h]
    exact log_mul_zpow one_lt_two hm q
  have hweight : lastWeight num den = q := by
    have hless : Nat.log 2 m < 53 := Nat.log_lt_of_lt_pow hm hlt
    rw [lastWeight, hlog]
    by_cases hleast : q = -1074
    · omega
    · have hge : 52 ≤ Nat.log 2 m := Nat.le_log_of_pow_le one_lt_two (hfull hleast)
      omega
  have hround : roundHalfEven (num <<< (-q).toNat) (den <<< q.toNat) = m :=
    (roundHalfEven_shifted hden one_pos q (by simpa using h)).trans roundHalfEven_one
  rw [ofRatio_of_ne_zero hnum, hweight, hround]

/-- A finite number is made of its parts again, and its fraction is full but for the least weight. -/
theorem exists_parts {x : Binary64} (h : x.isFinite = true) : ∃ m q, x.parts? = some (m, q) ∧
    m < 2 ^ 53 ∧ -1074 ≤ q ∧ q ≤ 971 ∧ (q ≠ -1074 → 2 ^ 52 ≤ m) ∧
      ofMagnitude x.negative ((q + 1074).toNat * exponentUnit + m) = x := by
  have hless : x.magnitude < infinityMagnitude := by simpa [isFinite] using h
  have hsame : ofMagnitude x.negative x.magnitude = x := by rw [ofMagnitude, dif_pos hless]
  have hunit : exponentUnit = 2 ^ 52 := by decide
  rw [infinityMagnitude, hunit] at hless
  unfold parts?
  rw [if_pos h]
  -- below one unit of the exponent field the fraction need not be full
  by_cases hsmall : x.magnitude < exponentUnit
  · rw [if_pos hsmall]
    refine ⟨x.magnitude, -1074, rfl, ?_, le_refl _, by decide, fun hne => absurd rfl hne, ?_⟩
    · omega
    · simpa using hsame
  · rw [if_neg hsmall]
    have hsplit := Nat.div_add_mod x.magnitude exponentUnit
    have hmod := Nat.mod_lt x.magnitude (by omega : 0 < exponentUnit)
    have hfield : x.magnitude / exponentUnit < 2047 := by
      rw [hunit]
      omega
    have hpos : 1 ≤ x.magnitude / exponentUnit := by
      rw [hunit] at hsmall ⊢
      omega
    refine ⟨_, _, rfl, by omega, by omega, by omega, fun _ => by omega, ?_⟩
    have hweight : ((x.magnitude / exponentUnit : Nat) - 1075 + 1074 : Int).toNat + 1 =
        x.magnitude / exponentUnit := by omega
    have hmagnitude : ((x.magnitude / exponentUnit : Nat) - 1075 + 1074 : Int).toNat * exponentUnit +
        (x.magnitude % exponentUnit + exponentUnit) = x.magnitude := by
      calc _ = (((x.magnitude / exponentUnit : Nat) - 1075 + 1074 : Int).toNat + 1) * exponentUnit +
            x.magnitude % exponentUnit := by ring
        _ = x.magnitude := by rw [hweight, Nat.mul_comm, hsplit]
    rw [hmagnitude, hsame]

/-! ### Bounds -/

end Binary64

end Bringup
