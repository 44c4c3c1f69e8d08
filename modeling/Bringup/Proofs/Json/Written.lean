import Bringup.Proofs.Json.Grammar
import Bringup.Proofs.Log.Escape
import Bringup.Proofs.Number.ReadBack

/-!
# What is written is JSON

* `Json.IsTree` : the values that JSON has a text for;
* `Json.real_text` : the text of a finite number is a number with a fraction or an exponent, and its value is
  the number;
* `Json.spelledBy_chars`, `Json.textOf_write` : what such a value is written as is a text of it;
* `Json.noControl_chars`, `Json.noControl_write` : no control character is among it.
-/

namespace Bringup.Json

variable {c : Char} {cs ds : List Char} {n : Nat} {e : Int} {x : Binary64}

/-! ### Texts -/

/-- The digits of a control character spell its code. -/
theorem codeUnit?_of_isControl (h : isControl c = true) :
    codeUnit? '0' '0' (hexDigit (c.toNat / 16)) (hexDigit (c.toNat % 16)) = some c.toNat := by
  have hall : ∀ n < 0x20, codeUnit? '0' '0' (hexDigit (n / 16)) (hexDigit (n % 16)) = some n := by decide
  exact hall c.toNat (by simpa [isControl] using h)

/-- What one character is written as spells it. -/
theorem characters_escapeChar (c : Char) : Characters (escapeChar c) [c] := by
  unfold escapeChar
  split_ifs with hmark hfeed hreturn htab hback hform hcontrol
  · rcases hmark with rfl | rfl
    · exact .escape rfl .nil
    · exact .escape rfl .nil
  · exact .escape (hfeed ▸ rfl) .nil
  · exact .escape (hreturn ▸ rfl) .nil
  · exact .escape (htab ▸ rfl) .nil
  · exact .escape (hback ▸ rfl) .nil
  · exact .escape (hform ▸ rfl) .nil
  · have hcode := codeUnit?_of_isControl (c := c) (by simpa [isControl] using hcontrol)
    have hhigh : isHigh c.toNat = false := by simp [isHigh]; omega
    have hlow : isLow c.toNat = false := by simp [isLow]; omega
    simpa using Characters.unit hcode hhigh hlow .nil
  · exact .plain (fun h => hmark (.inl h)) (fun h => hmark (.inr h)) hcontrol .nil

theorem characters_flatMap (s : List Char) : Characters (s.flatMap escapeChar) s := by
  induction s with
  | nil => exact .nil
  | cons c s ih => exact (characters_escapeChar c).append ih

theorem quotedText_text (s : String) : QuotedText s (text s) :=
  ⟨s.toList.flatMap escapeChar, rfl, characters_flatMap s.toList⟩

/-! ### Whole numbers -/

theorem digits_toDigits (n : Nat) : Digits (Nat.toDigits 10 n) :=
  ⟨Nat.toDigits_ne_nil, fun _ hd => Nat.isDigit_of_mem_toDigits (by decide) (by decide) hd⟩

/-- The digits of a number other than zero do not begin with a zero. -/
theorem head?_toDigits_ne (hn : n ≠ 0) : (Nat.toDigits 10 n).head? ≠ some '0' := by
  induction n using Nat.strongRecOn with
  | _ n ih =>
    by_cases hsmall : n < 10
    · rw [Nat.toDigits_of_lt_base hsmall, List.head?_cons]
      intro h
      have hall : ∀ n < 10, n ≠ 0 → Nat.digitChar n ≠ '0' := by decide
      exact hall n hsmall hn (Option.some.inj h)
    · rw [Nat.toDigits_of_base_le (by decide) (by omega), List.head?_append_of_ne_nil _ Nat.toDigits_ne_nil]
      exact ih (n / 10) (by omega) (by omega)

theorem wholePart_toDigits (n : Nat) : WholePart (Nat.toDigits 10 n) := by
  by_cases hn : n = 0
  · rw [hn]
    exact .inl rfl
  · exact (digits_toDigits n).wholePart (head?_toDigits_ne hn)

theorem toList_toString (n : Int) :
    (toString n).toList = minus (decide (n < 0)) ++ Nat.toDigits 10 n.natAbs := by
  change n.repr.toList = _
  rw [Int.repr_eq_if]
  by_cases hn : n < 0
  · have habs : (-n).toNat = n.natAbs := by omega
    rw [if_neg (by omega), String.toList_append, Nat.toList_repr, habs]
    simp [minus, hn]
  · have habs : n.toNat = n.natAbs := by omega
    rw [if_pos (by omega), Nat.toList_repr, habs]
    simp [minus, hn]

theorem whole_toString {n : Int} (h : (Value.int n).showable = true) :
    Whole n (toString n).toList := by
  refine ⟨decide (n < 0), _, toList_toString n, wholePart_toDigits _, of_decide_eq_true h, ?_⟩
  rw [Nat.ofDigitChars_ten_toDigits, signed]
  split_ifs with hn
  · have hn : n < 0 := of_decide_eq_true hn
    omega
  · have hn : ¬ n < 0 := fun h => hn (decide_eq_true h)
    omega

/-! ### Floating-point numbers -/

/-- The text spells a decimal with a fraction or an exponent, and the value of this decimal is that of `d`. -/
def SpellsDecimal (d : Decimal) (cs : List Char) : Prop :=
  ∃ ds f fs xs e, cs = ds ++ (f ++ xs) ∧ WholePart ds ∧ Fraction f fs ∧ Exponent xs e ∧
    (fs ≠ [] ∨ e ≠ none) ∧
      (⟨Nat.ofDigitChars 10 (ds ++ fs) 0, e.getD 0 - fs.length⟩ : Decimal).value = d.value

theorem SpellsDecimal.congr {d d' : Decimal} (h : SpellsDecimal d cs) (hvalue : d.value = d'.value) :
    SpellsDecimal d' cs := by
  obtain ⟨ds, f, fs, xs, e, hcs, hds, hf, hxs, hreal, hd⟩ := h
  exact ⟨ds, f, fs, xs, e, hcs, hds, hf, hxs, hreal, hd.trans hvalue⟩

/-- Zeros before digits leave their value. -/
theorem digits_zeros_append (n k : Nat) : Digits (List.replicate k '0' ++ Nat.toDigits 10 n) ∧
    Nat.ofDigitChars 10 (List.replicate k '0' ++ Nat.toDigits 10 n) 0 = n := by
  refine ⟨⟨by simp, fun d hd => ?_⟩, ?_⟩
  · rcases List.mem_append.1 hd with hd | hd
    · rw [List.eq_of_mem_replicate hd]
      rfl
    · exact (digits_toDigits n).2 d hd
  · rw [Nat.ofDigitChars_append, Nat.ofDigitChars_replicate_zero, Nat.mul_zero,
      Nat.ofDigitChars_ten_toDigits]

theorem exponent_exponentText (width : Nat) (e : Int) :
    Exponent ('e' :: exponentText width e) (some e) := by
  obtain ⟨hdigits, hvalue⟩ :=
    digits_zeros_append e.natAbs (width - (Nat.toDigits 10 e.natAbs).length)
  by_cases he : e < 0
  · have hsigned : signed true e.natAbs = e := by
      simp only [signed, if_true]
      omega
    have h := Exponent.mark (.inl rfl) .minus hdigits
    rw [hvalue, hsigned] at h
    simpa [exponentText, paddedDigits, he] using h
  · have hsigned : signed false e.natAbs = e := by
      simp only [signed, Bool.false_eq_true, if_false]
      omega
    have h := Exponent.mark (.inl rfl) .plus hdigits
    rw [hvalue, hsigned] at h
    simpa [exponentText, paddedDigits, he] using h

/-- A point before all digits, with zeros between them. -/
theorem spellsDecimal_below (hpoint : (Nat.toDigits 10 n).length + e ≤ 0) : SpellsDecimal ⟨n, e⟩
    ('0' :: '.' :: (List.replicate (-((Nat.toDigits 10 n).length + e)).toNat '0' ++ Nat.toDigits 10 n)) := by
  obtain ⟨k, hk⟩ := Int.eq_ofNat_of_zero_le (Int.neg_nonneg_of_nonpos hpoint)
  obtain ⟨hdigits, -⟩ := digits_zeros_append n k
  obtain ⟨-, hvalue⟩ := digits_zeros_append n (k + 1)
  rw [hk, Int.toNat_natCast]
  refine ⟨['0'], _, _, [], none, by simp, .inl rfl, .point hdigits, .none, .inl hdigits.1, ?_⟩
  rw [List.singleton_append, ← List.cons_append, ← List.replicate_succ, hvalue]
  congr 2
  simp
  omega

/-- A point between the digits. -/
theorem spellsDecimal_inside (hn : n ≠ 0) (he : e < 0) (hpoint : 0 < (Nat.toDigits 10 n).length + e) :
    SpellsDecimal ⟨n, e⟩ ((Nat.toDigits 10 n).take ((Nat.toDigits 10 n).length + e).toNat ++
      '.' :: (Nat.toDigits 10 n).drop ((Nat.toDigits 10 n).length + e).toNat) := by
  obtain ⟨p, hp⟩ := Int.eq_ofNat_of_zero_le hpoint.le
  rw [hp, Int.toNat_natCast]
  have hdrop : Digits ((Nat.toDigits 10 n).drop p) := by
    refine ⟨?_, fun d hd => (digits_toDigits n).2 d (List.mem_of_mem_drop hd)⟩
    simp
    omega
  have htake : WholePart ((Nat.toDigits 10 n).take p) := by
    refine Digits.wholePart ⟨?_, fun d hd => (digits_toDigits n).2 d (List.mem_of_mem_take hd)⟩ ?_
    · simp [Nat.toDigits_ne_nil]
      omega
    · rw [List.head?_take, if_neg (by omega)]
      exact head?_toDigits_ne hn
  refine ⟨_, _, _, [], none, by simp, htake, .point hdrop, .none, .inl hdrop.1, ?_⟩
  rw [List.take_append_drop, Nat.ofDigitChars_ten_toDigits]
  congr 2
  simp
  omega

/-- A point behind all digits and the zeros that follow them. -/
theorem spellsDecimal_above (n : Nat) {z : Nat} (hz : n = 0 → z = 0) :
    SpellsDecimal ⟨n, z⟩ (Nat.toDigits 10 n ++ List.replicate z '0' ++ ['.', '0']) := by
  have hwhole : WholePart (Nat.toDigits 10 n ++ List.replicate z '0') := by
    by_cases hn : n = 0
    · rw [hz hn, hn]
      exact .inl rfl
    · refine Digits.wholePart ⟨by simp, fun d hd => ?_⟩ ?_
      · rcases List.mem_append.1 hd with hd | hd
        · exact (digits_toDigits n).2 d hd
        · rw [List.eq_of_mem_replicate hd]
          rfl
      · rw [List.head?_append_of_ne_nil _ Nat.toDigits_ne_nil]
        exact head?_toDigits_ne hn
  refine ⟨_, ['.', '0'], ['0'], [], none, by simp, hwhole, .point (by simp [Digits]), .none,
    .inl (by simp), ?_⟩
  have hvalue : Nat.ofDigitChars 10 (Nat.toDigits 10 n ++ List.replicate z '0' ++ ['0']) 0 =
      n * 10 ^ (z + 1) := by
    rw [List.append_assoc, ← List.replicate_succ', Nat.ofDigitChars_append, Nat.ofDigitChars_ten_toDigits,
      Nat.ofDigitChars_replicate_zero, Nat.mul_comm]
  rw [hvalue, ← Decimal.value_shift n (z + 1) z]
  congr 2
  simp

/-- A point behind the first digit, and an exponent. -/
theorem spellsDecimal_exponent (hn : n ≠ 0) (width : Nat) (e : Int) : SpellsDecimal ⟨n, e⟩
    ((Nat.toDigits 10 n).take 1 ++
      (if ((Nat.toDigits 10 n).drop 1).isEmpty then [] else '.' :: (Nat.toDigits 10 n).drop 1) ++
      'e' :: exponentText width ((Nat.toDigits 10 n).length + e - 1)) := by
  have htake : WholePart ((Nat.toDigits 10 n).take 1) := by
    refine Digits.wholePart ⟨?_, fun d hd => (digits_toDigits n).2 d (List.mem_of_mem_take hd)⟩ ?_
    · simp [Nat.toDigits_ne_nil]
    · rw [List.head?_take, if_neg (by omega)]
      exact head?_toDigits_ne hn
  have hfraction : Fraction
      (if ((Nat.toDigits 10 n).drop 1).isEmpty then [] else '.' :: (Nat.toDigits 10 n).drop 1)
      ((Nat.toDigits 10 n).drop 1) := by
    split_ifs with hempty
    · rw [List.isEmpty_iff.1 hempty]
      exact .none
    · exact .point ⟨by simpa using hempty, fun d hd => (digits_toDigits n).2 d (List.mem_of_mem_drop hd)⟩
  refine ⟨_, _, _, _, _, List.append_assoc .., htake, hfraction, exponent_exponentText width _,
    .inr (by simp), ?_⟩
  have hlength : 0 < (Nat.toDigits 10 n).length := Nat.length_toDigits_pos
  rw [List.take_append_drop, Nat.ofDigitChars_ten_toDigits]
  congr 2
  simp
  omega

/-- Each layout spells the value of the decimal. -/
theorem spellsDecimal_decimal (d : Decimal) : SpellsDecimal d (FloatText.json.decimal d) := by
  obtain ⟨n, e⟩ := d
  by_cases hn : n = 0
  · subst hn
    have hvalue : (⟨0, (0 : Nat)⟩ : Decimal).value = (⟨0, e⟩ : Decimal).value :=
      (Decimal.value_eq_zero_iff.2 rfl).trans (Decimal.value_eq_zero_iff.2 rfl).symm
    have hlayout : FloatText.json.decimal ⟨0, e⟩ = ['0', '.', '0'] := by
      simp [FloatText.decimal, FloatText.json, FloatText.plain]
    rw [hlayout]
    exact (spellsDecimal_above 0 fun _ => rfl).congr hvalue
  unfold FloatText.decimal
  simp only [hn, if_false]
  by_cases hrange : FloatText.json.leastPoint ≤ (Nat.toDigits 10 n).length + e ∧
      (Nat.toDigits 10 n).length + e ≤ FloatText.json.greatestPoint
  · rw [if_pos hrange]
    by_cases hbelow : (Nat.toDigits 10 n).length + e ≤ 0
    · rw [if_pos hbelow]
      exact spellsDecimal_below hbelow
    rw [if_neg hbelow]
    by_cases he : e < 0
    · have hzeros : ((Nat.toDigits 10 n).length + e).toNat - (Nat.toDigits 10 n).length = 0 := by omega
      have hend : ((Nat.toDigits 10 n).drop ((Nat.toDigits 10 n).length + e).toNat).isEmpty = false := by
        simp
        omega
      simpa [hzeros, hend] using spellsDecimal_inside hn he (by omega)
    · obtain ⟨z, rfl⟩ := Int.eq_ofNat_of_zero_le (Int.not_lt.1 he)
      have hpoint : (((Nat.toDigits 10 n).length : Int) + z).toNat = (Nat.toDigits 10 n).length + z := by
        omega
      rw [hpoint]
      simpa [List.take_of_length_le, List.drop_of_length_le] using spellsDecimal_above n fun h => absurd h hn
  · rw [if_neg hrange]
    exact spellsDecimal_exponent hn _ e

/-- The text of a finite number. -/
theorem real_text (h : x.isFinite = true) : Real x (x.text .json).toList := by
  obtain ⟨d, hd, hx⟩ := Binary64.exists_shortest? h
  obtain ⟨ds, f, fs, xs, e, hcs, hds, hf, hxs, hreal, hvalue⟩ := spellsDecimal_decimal d
  refine ⟨x.negative, ds, f, fs, xs, e, ?_, hds, hf, hxs, hreal, ?_⟩
  · rw [Binary64.text, hd]
    simp [minus, hcs]
  · calc x = Binary64.ofScientific x.negative d.digits d.exponent := hx.symm
      _ = _ := (Binary64.ofScientific_congr hvalue).symm

/-! ### Values -/

mutual

/-- A value that JSON has a text for, whole numbers of any size included. -/
def IsTree : Value → Prop
  | .null => True
  | .bool _ => True
  | .int _ => True
  | .float x => x.isFinite = true
  | .str _ => True
  | .date _ => False
  | .list items => AreTrees items
  | .doc fields => (Assoc.keys fields).Nodup ∧ HoldTrees fields

/-- Items that JSON has a text for. -/
def AreTrees : List Value → Prop
  | [] => True
  | v :: vs => IsTree v ∧ AreTrees vs

/-- Fields with values that JSON has a text for. -/
def HoldTrees : List (String × Value) → Prop
  | [] => True
  | (_, v) :: fields => IsTree v ∧ HoldTrees fields

end

theorem padded_self {P : List Char → Prop} (h : P cs) : Padded P cs :=
  ⟨[], cs, [], by simp, by simp [Blank], by simp [Blank], h⟩

theorem fieldText_chars {name : String} {v : Value} (h : SpelledBy v cs) :
    FieldText name (SpelledBy v) (text name ++ ':' :: cs) :=
  ⟨text name, cs, rfl, padded_self (quotedText_text name), padded_self h⟩

mutual

/-- The characters of a value are a text of it. -/
theorem spelledBy_chars (v : Value) (h : IsTree v) (hshow : v.showable = true) :
    SpelledBy v (chars v) := by
  cases v with
  | null => rfl
  | bool b => cases b <;> rfl
  | int n => exact whole_toString hshow
  | float x => exact real_text h
  | str s => exact quotedText_text s
  | date t => exact h.elim
  | list items =>
    obtain ⟨body, hchars, hbody⟩ := spelledBy_itemChars items h hshow
    exact ⟨body, by rw [chars, hchars], hbody⟩
  | doc fields =>
    obtain ⟨body, hchars, hbody⟩ := spelledBy_fieldChars fields h.2 hshow
    exact ⟨h.1, body, by rw [chars, hchars], hbody⟩

theorem spelledBy_itemChars (vs : List Value) (h : AreTrees vs) (hshow : Value.showableItems vs = true) :
    ∃ body, itemChars vs = body ++ [']'] ∧ ItemsSpelledBy vs body := by
  match vs with
  | [] => exact ⟨[], rfl, by simp [ItemsSpelledBy, Blank]⟩
  | [v] =>
    obtain ⟨hv, -⟩ := Bool.and_eq_true_iff.1 hshow
    exact ⟨chars v, rfl, padded_self (spelledBy_chars v h.1 hv)⟩
  | v :: w :: vs =>
    obtain ⟨hv, hrest⟩ := Bool.and_eq_true_iff.1 hshow
    obtain ⟨body, hchars, hbody⟩ := spelledBy_itemChars (w :: vs) h.2 hrest
    refine ⟨chars v ++ ',' :: body, ?_, chars v, body, rfl, padded_self (spelledBy_chars v h.1 hv), hbody⟩
    simp [itemChars, hchars]

theorem spelledBy_fieldChars (fields : List (String × Value)) (h : HoldTrees fields)
    (hshow : Value.showableFields fields = true) :
    ∃ body, fieldChars fields = body ++ ['}'] ∧ FieldsSpelledBy fields body := by
  match fields with
  | [] => exact ⟨[], rfl, by simp [FieldsSpelledBy, Blank]⟩
  | [(name, v)] =>
    obtain ⟨hv, -⟩ := Bool.and_eq_true_iff.1 hshow
    exact ⟨text name ++ ':' :: chars v, rfl, fieldText_chars (spelledBy_chars v h.1 hv)⟩
  | (name, v) :: field :: fields =>
    obtain ⟨hv, hrest⟩ := Bool.and_eq_true_iff.1 hshow
    obtain ⟨body, hchars, hbody⟩ := spelledBy_fieldChars (field :: fields) h.2 hrest
    refine ⟨text name ++ ':' :: chars v ++ ',' :: body, ?_, _, body, rfl,
      fieldText_chars (spelledBy_chars v h.1 hv), hbody⟩
    simp [fieldChars, hchars]

end

/-- No control character is among the characters. -/
def NoControl (cs : List Char) : Prop := ∀ c ∈ cs, isControl c = false

instance (cs : List Char) : Decidable (NoControl cs) :=
  List.decidableBAll (fun c => isControl c = false) cs

theorem noControl_nil : NoControl [] := List.forall_mem_nil _

theorem noControl_cons : NoControl (c :: cs) ↔ isControl c = false ∧ NoControl cs := List.forall_mem_cons

theorem noControl_append : NoControl (cs ++ ds) ↔ NoControl cs ∧ NoControl ds := List.forall_mem_append

theorem Digits.noControl (h : Digits ds) : NoControl ds := by
  intro d hd
  have hdigit := h.2 d hd
  simp only [Char.isDigit, Bool.and_eq_true, decide_eq_true_eq] at hdigit
  have hle : 48 ≤ d.toNat := hdigit.1
  simp [isControl]
  omega

theorem noControl_minus (negative : Bool) : NoControl (minus negative) := by
  cases negative <;> decide

theorem noControl_toString (n : Int) : NoControl (toString n).toList := by
  rw [toList_toString]
  exact noControl_append.2 ⟨noControl_minus _, (digits_toDigits n.natAbs).noControl⟩

theorem Real.noControl (h : Real x cs) : NoControl cs := by
  obtain ⟨negative, ds, f, fs, xs, e, rfl, hds, hf, hxs, -⟩ := h
  have hfraction : NoControl f := by
    cases hf with
    | none => exact noControl_nil
    | point hfs => exact noControl_cons.2 ⟨rfl, hfs.noControl⟩
  have hexponent : NoControl xs := by
    cases hxs with
    | none => exact noControl_nil
    | mark hmark hsign hdigits =>
      refine noControl_cons.2 ⟨?_, noControl_append.2 ⟨?_, hdigits.noControl⟩⟩
      · rcases hmark with rfl | rfl <;> rfl
      · cases hsign <;> decide
  simp only [noControl_append]
  exact ⟨noControl_minus negative, hds.digits.noControl, hfraction, hexponent⟩

theorem noControl_escapeChar (c : Char) : NoControl (escapeChar c) := by
  cases h : isEscaped c with
  | true =>
    simp only [isEscaped, Bool.or_eq_true, beq_iff_eq] at h
    rcases h with (rfl | rfl) | hcontrol
    · decide
    · decide
    · have hall : ∀ n < 0x20, NoControl (escapeChar (Char.ofNat n)) := by decide
      have hc := hall c.toNat (by simpa [isControl] using hcontrol)
      rwa [Char.ofNat_toNat] at hc
  | false =>
    rw [escapeChar_of_not_isEscaped h]
    exact noControl_cons.2 ⟨(Bool.or_eq_false_iff.1 h).2, noControl_nil⟩

theorem noControl_text (s : String) : NoControl (text s) := by
  have hbody : NoControl (s.toList.flatMap escapeChar) := by
    intro c hc
    obtain ⟨d, -, hd⟩ := List.mem_flatMap.1 hc
    exact noControl_escapeChar d c hd
  simp only [text, noControl_append, noControl_cons]
  exact ⟨⟨rfl, hbody⟩, rfl, noControl_nil⟩

mutual

/-- No control character stands in what is written. -/
theorem noControl_chars (v : Value) (h : IsTree v) : NoControl (chars v) := by
  cases v with
  | null => decide
  | bool b => cases b <;> decide
  | int n => exact noControl_toString n
  | float x => exact (real_text h).noControl
  | str s => exact noControl_text s
  | date t => exact h.elim
  | list items => exact noControl_cons.2 ⟨rfl, noControl_itemChars items h⟩
  | doc fields => exact noControl_cons.2 ⟨rfl, noControl_fieldChars fields h.2⟩

theorem noControl_itemChars (vs : List Value) (h : AreTrees vs) : NoControl (itemChars vs) := by
  match vs with
  | [] => decide
  | [v] => exact noControl_append.2 ⟨noControl_chars v h.1, by decide⟩
  | v :: w :: vs =>
    rw [itemChars, noControl_append, noControl_cons]
    · exact ⟨noControl_chars v h.1, rfl, noControl_itemChars (w :: vs) h.2⟩
    · simp

theorem noControl_fieldChars (fields : List (String × Value)) (h : HoldTrees fields) :
    NoControl (fieldChars fields) := by
  match fields with
  | [] => decide
  | [(name, v)] =>
    simp only [fieldChars, noControl_append, noControl_cons]
    exact ⟨⟨noControl_text name, rfl, noControl_chars v h.1⟩, rfl, noControl_nil⟩
  | (name, v) :: field :: fields =>
    simp only [fieldChars, noControl_append, noControl_cons]
    exact ⟨⟨noControl_text name, rfl, noControl_chars v h.1⟩, rfl,
      noControl_fieldChars (field :: fields) h.2⟩

end

end Bringup.Json
