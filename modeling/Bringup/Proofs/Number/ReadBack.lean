import Bringup.Proofs.Number.Nearest

/-!
# The shortest decimal reads back

* `Decimal.value`, `Binary64.ofScientific_congr` : decimals of one value are read alike;
* `Binary64.ofScientific_of_value` : a decimal with the value of a number is read as this number;
* `Binary64.exists_shortest?` : a finite number has a shortest decimal, and this is read as the number.

It is not needed that seventeen digits are enough: where no short decimal is found, the exact one stands in.
-/

namespace Bringup

variable {num den m n count : Nat} {q e : Int} {negative : Bool} {d d' : Decimal} {x : Binary64}

/-! ### The value of a decimal -/

namespace Decimal

/-- The value of a decimal. -/
def value (d : Decimal) : ℚ := d.digits * 10 ^ d.exponent

theorem value_eq_zero_iff : d.value = 0 ↔ d.digits = 0 := by
  have hpow : (10 : ℚ) ^ d.exponent ≠ 0 := zpow_ne_zero _ (by norm_num)
  simp [value, hpow]

/-- Zeros behind the digits and a lesser weight leave the value. -/
theorem value_shift (n k : Nat) (e : Int) :
    (⟨n * 10 ^ k, e - k⟩ : Decimal).value = (⟨n, e⟩ : Decimal).value := by
  have hpow : (10 : ℚ) ^ k * 10 ^ (e - k) = 10 ^ e := by
    rw [← zpow_natCast, ← zpow_add₀ (by norm_num), add_sub_cancel]
  simp only [value]
  push_cast
  rw [mul_assoc, hpow]

theorem value_dropZeros (fuel : Nat) (d : Decimal) : (dropZeros fuel d).value = d.value := by
  induction fuel generalizing d with
  | zero => rfl
  | succ fuel ih =>
    unfold dropZeros
    split
    · rename_i h
      obtain ⟨digits, exponent⟩ := d
      have hdigits : digits / 10 * 10 ^ 1 = digits := by
        simp only at h
        omega
      rw [ih, ← value_shift (digits / 10) 1 (exponent + 1), hdigits]
      congr 2
      simp
    · rfl

theorem value_normalize (d : Decimal) : d.normalize.value = d.value := value_dropZeros _ d

end Decimal

namespace Binary64

theorem decimalLength_eq_log (hn : n ≠ 0) : decimalLength n = Nat.log 10 n + 1 := by
  have hle : decimalLength n ≤ Nat.log 10 n + 1 :=
    (Nat.length_toDigits_le_iff (by decide) (Nat.succ_pos _)).2 (Nat.lt_pow_succ_log_self (by decide) n)
  have hpos : 0 < decimalLength n := Nat.length_toDigits_pos
  by_contra hne
  have hless : decimalLength n ≤ Nat.log 10 n := by omega
  have := (Nat.length_toDigits_le_iff (by decide) (by omega)).1 hless
  exact absurd (Nat.pow_log_le_self 10 hn) (by omega)

/-- The first digit of a decimal has the weight of its value. -/
theorem decimalLength_add (hd : d.digits ≠ 0) :
    (decimalLength d.digits : Int) + d.exponent = Int.log 10 d.value + 1 := by
  have hlog : Int.log 10 d.value = Nat.log 10 d.digits + d.exponent := log_mul_zpow (by decide) hd _
  rw [decimalLength_eq_log hd, hlog]
  push_cast
  ring

theorem ratio_eq_value (d : Decimal) :
    ((d.digits * tenTo d.exponent.toNat : Nat) : ℚ) / (tenTo (-d.exponent).toNat : Nat) = d.value := by
  have hten : ∀ k : Nat, ((tenTo k : Nat) : ℚ) = 10 ^ k := by
    intro k
    simp [tenTo]
  rw [Nat.cast_mul, hten, hten, Decimal.value, zpow_eq_toNat_div]
  ring

theorem tenTo_pos (k : Nat) : 0 < tenTo k := Nat.pow_pos (by decide)

/-! ### Reading a decimal -/

/-- Decimals of one value are read alike. -/
theorem ofScientific_congr (h : d.value = d'.value) :
    ofScientific negative d.digits d.exponent = ofScientific negative d'.digits d'.exponent := by
  have hzero : d.digits = 0 ↔ d'.digits = 0 := by
    rw [← Decimal.value_eq_zero_iff, ← Decimal.value_eq_zero_iff, h]
  unfold ofScientific
  by_cases hd : d.digits = 0
  · rw [if_pos hd, if_pos (hzero.1 hd)]
  · have hd' : d'.digits ≠ 0 := fun h0 => hd (hzero.2 h0)
    have hratio := ofRatio_congr negative (tenTo_pos (-d.exponent).toNat)
      (tenTo_pos (-d'.exponent).toNat) ((ratio_eq_value d).trans (h.trans (ratio_eq_value d').symm))
    rw [if_neg hd, if_neg hd', decimalLength_add hd, decimalLength_add hd', h, hratio]

/-- The value of a finite number is in the range of decimals that are computed. -/
theorem log_bounds (hm : m ≠ 0) (hlt : m < 2 ^ 53) (hq : -1074 ≤ q) (hq' : q ≤ 971) :
    -324 ≤ Int.log 10 ((m : ℚ) * 2 ^ q) ∧ Int.log 10 ((m : ℚ) * 2 ^ q) < 309 := by
  have hm' : (1 : ℚ) ≤ m := by exact_mod_cast Nat.pos_of_ne_zero hm
  have hpow : (0 : ℚ) < 2 ^ q := zpow_pos two_pos q
  have hpos : (0 : ℚ) < (m : ℚ) * 2 ^ q := by positivity
  have hleast : (2 : ℚ) ^ 1074 ≤ ((10 : Nat) : ℚ) ^ 324 := by
    exact_mod_cast (by decide +kernel : 2 ^ 1074 ≤ 10 ^ 324)
  have hgreatest : (2 : ℚ) ^ 53 * 2 ^ 971 ≤ ((10 : Nat) : ℚ) ^ 309 := by
    exact_mod_cast (by decide +kernel : 2 ^ 53 * 2 ^ 971 ≤ 10 ^ 309)
  constructor
  · refine (Int.zpow_le_iff_le_log (by decide) hpos).1 ?_
    calc ((10 : Nat) : ℚ) ^ (-(324 : Nat) : Int) ≤ 2 ^ (-(1074 : Nat) : Int) := by
          rw [zpow_neg, zpow_neg, zpow_natCast, zpow_natCast, inv_le_inv₀ (by positivity) (by positivity)]
          exact hleast
      _ ≤ 2 ^ q := zpow_le_zpow_right₀ one_le_two hq
      _ ≤ m * 2 ^ q := le_mul_of_one_le_left hpow.le hm'
  · refine (Int.lt_zpow_iff_log_lt (by decide) hpos).1 ?_
    have hlt' : (m : ℚ) < 2 ^ 53 := by exact_mod_cast hlt
    calc (m : ℚ) * 2 ^ q < 2 ^ 53 * 2 ^ q := mul_lt_mul_of_pos_right hlt' hpow
      _ ≤ 2 ^ 53 * 2 ^ ((971 : Nat) : Int) :=
          mul_le_mul_of_nonneg_left (zpow_le_zpow_right₀ one_le_two hq') (by positivity)
      _ ≤ ((10 : Nat) : ℚ) ^ ((309 : Nat) : Int) := by
          rw [zpow_natCast, zpow_natCast]
          exact hgreatest

/-- A decimal with the value of a number is read as this number. -/
theorem ofScientific_of_value (negative : Bool) (hm : m ≠ 0) (hlt : m < 2 ^ 53) (hq : -1074 ≤ q)
    (hq' : q ≤ 971) (hfull : q ≠ -1074 → 2 ^ 52 ≤ m) (h : d.value = m * 2 ^ q) :
    ofScientific negative d.digits d.exponent =
      ofMagnitude negative ((q + 1074).toNat * exponentUnit + m) := by
  have hd : d.digits ≠ 0 := by
    intro h0
    have hm' : (m : ℚ) ≠ 0 := by exact_mod_cast hm
    rw [Decimal.value_eq_zero_iff.2 h0] at h
    exact mul_ne_zero hm' (zpow_ne_zero q two_ne_zero) h.symm
  obtain ⟨hleast, hgreatest⟩ := log_bounds hm hlt hq hq'
  have hlength := decimalLength_add hd
  rw [h] at hlength
  unfold ofScientific
  rw [if_neg hd, if_neg (by omega), if_neg (by omega)]
  exact ofRatio_parts (tenTo_pos _) hm hlt hq hfull ((ratio_eq_value d).trans h)

/-! ### The shortest decimal -/

theorem roundHalfEven_eq_or (num den : Nat) :
    roundHalfEven num den = num / den ∨ roundHalfEven num den = num / den + 1 := by
  unfold roundHalfEven
  dsimp only
  split
  · exact .inl rfl
  · split
    · exact .inr rfl
    · split
      · exact .inl rfl
      · exact .inr rfl

/-- What is found on a grid was read back. -/
theorem ofScientific_of_hit? (h : x.hit? num den count = some d) :
    ofScientific x.negative d.digits d.exponent = x := by
  unfold hit? at h
  dsimp only at h
  split at h
  · rename_i hlow hhigh
    obtain rfl := Option.some.inj h
    rcases roundHalfEven_eq_or (onGrid num den (decimalPoint num den - count)).1
      (onGrid num den (decimalPoint num den - count)).2 with heq | heq
    · rw [heq]
      exact eq_of_beq hlow
    · rw [heq]
      exact eq_of_beq hhigh
  · rename_i hlow _
    obtain rfl := Option.some.inj h
    exact eq_of_beq hlow
  · rename_i _ hhigh
    obtain rfl := Option.some.inj h
    exact eq_of_beq hhigh
  · cases h

theorem value_exactDecimal (m : Nat) (q : Int) : (exactDecimal m q).value = m * 2 ^ q := by
  unfold exactDecimal
  split
  · rename_i hq
    obtain ⟨k, rfl⟩ := Int.eq_ofNat_of_zero_le hq
    simp [Decimal.value, cast_shiftLeft]
  · rename_i hq
    obtain ⟨k, hk⟩ : ∃ k : Nat, q = -(k : Int) := ⟨(-q).toNat, by omega⟩
    subst hk
    have hsplit : (10 : ℚ) ^ k = 5 ^ k * 2 ^ k := by rw [← mul_pow]; norm_num
    simp only [Decimal.value, neg_neg, Int.toNat_natCast, zpow_neg, zpow_natCast, hsplit]
    push_cast
    rw [show ((Nat.pow 5 k : Nat) : ℚ) = 5 ^ k by simp]
    field_simp

theorem ofMagnitude_zero : ofMagnitude negative 0 = zero negative := by
  rw [ofMagnitude, dif_pos (by decide)]
  rfl

/-- A finite number has a shortest decimal, and this is read as the number. -/
theorem exists_shortest? (h : x.isFinite = true) :
    ∃ d, x.shortest? = some d ∧ ofScientific x.negative d.digits d.exponent = x := by
  obtain ⟨m, q, hparts, hlt, hq, hq', hfull, hsame⟩ := exists_parts h
  have hratio : x.ratio? = some (m <<< q.toNat, 1 <<< (-q).toNat) := by
    rw [ratio?, hparts]
    rfl
  have hnum : m <<< q.toNat = 0 ↔ m = 0 := by
    rw [Nat.shiftLeft_eq]
    simp
  unfold shortest?
  rw [hparts, hratio]
  dsimp only
  by_cases hm : m = 0
  · rw [if_pos (hnum.2 hm)]
    have hleast : q = -1074 := by
      by_contra hne
      have := hfull hne
      omega
    rw [hm, hleast] at hsame
    exact ⟨⟨0, 0⟩, rfl, ofMagnitude_zero.symm.trans hsame⟩
  · rw [if_neg (fun h0 => hm (hnum.1 h0))]
    refine ⟨_, rfl, ?_⟩
    have hvalue (d : Decimal) (hd : ofScientific x.negative d.digits d.exponent = x) :
        ofScientific x.negative d.normalize.digits d.normalize.exponent = x := by
      rw [ofScientific_congr d.value_normalize, hd]
    apply hvalue
    -- where no length has a hit the decimal is the exact one
    cases hfound : (List.range' 1 17).findSome? (hit? x (m <<< q.toNat) (1 <<< (-q).toNat)) with
    | none =>
      have hexact := ofScientific_of_value x.negative hm hlt hq hq' hfull (value_exactDecimal m q)
      exact hexact.trans hsame
    | some d =>
      obtain ⟨count, -, hhit⟩ := List.exists_of_findSome?_eq_some hfound
      exact ofScientific_of_hit? hhit

end Binary64

end Bringup
