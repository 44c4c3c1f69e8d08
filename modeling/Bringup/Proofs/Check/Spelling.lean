import Bringup.Proofs.Check.Decides
import Bringup.Proofs.Spec.Reported
import Mathlib.Data.List.TakeDrop
import Mathlib.Data.List.TakeWhile
import Mathlib.Tactic.ByContra

/-!
# How values spell whole numbers and truth values

* `Spells.Digits`, `Spells.Sign`, `Spells.ZeroFraction`, `Spells.IntegerText` : the texts that spell a
  whole number, as a grammar;
* `Spells.Text`, `Spells.Integer`, `Spells.Truth`, `Spells.OrNull` : what a value spells, said without the
  checks;
* `Check.decides_integer`, `Check.decides_truth` : the checks of a field decide just that.

A check reads a text from its two ends and looks at the digits as a whole.  The grammar is the same seen
from its parts, and no text has two readings.
-/

namespace Bringup

variable {α : Type}

namespace Spells

/-- ASCII digits with their values; single underscores may stand between them. -/
inductive Digits : List Char → List Nat → Prop
  | last {c : Char} {d : Nat} : asciiDigit? c = some d → Digits [c] [d]
  | next {c : Char} {d : Nat} {cs : List Char} {ds : List Nat} :
    asciiDigit? c = some d → Digits cs ds → Digits (c :: cs) (d :: ds)
  | apart {c : Char} {d : Nat} {cs : List Char} {ds : List Nat} :
    asciiDigit? c = some d → Digits cs ds → Digits (c :: '_' :: cs) (d :: ds)

/-- A sign, or none; true stands for minus. -/
inductive Sign : List Char → Bool → Prop
  | none : Sign [] false
  | plus : Sign ['+'] false
  | minus : Sign ['-'] true

/-- A point and zeros, or nothing. -/
inductive ZeroFraction : List Char → Prop
  | none : ZeroFraction []
  | zeros (k : Nat) : ZeroFraction ('.' :: List.replicate (k + 1) '0')

/-- The text is a whole number: a sign, digits, and perhaps a fraction of zeros, of no more characters than
the limit allows, with white space around. -/
def IntegerText (s : String) (n : Int) : Prop :=
  ∃ before sign digits fraction after negative ds,
    s.toList = before ++ (sign ++ digits ++ fraction) ++ after ∧
      (∀ c ∈ before, isWhiteSpace c = true) ∧ (∀ c ∈ after, isWhiteSpace c = true) ∧
      Sign sign negative ∧ Digits digits ds ∧ ZeroFraction fraction ∧
      (sign ++ digits ++ fraction).length ≤ digitLimit ∧
      n = if negative then -(ofDigits ds : Int) else ofDigits ds

/-- The value is a text. -/
def Text (v : Value) (s : String) : Prop := v = .str s

/-- A whole number, a truth value as one or zero, a floating-point number that is equal to a whole one and
not too large, or a text of one. -/
inductive Integer : Value → Int → Prop
  | int (n : Int) : Integer (.int n) n
  | bool (b : Bool) : Integer (.bool b) (if b then 1 else 0)
  | float {x : Binary64} {n : Int} :
    x.equalInt n = true → -Check.floatBound < n → n < Check.floatBound → Integer (.float x) n
  | str {s : String} {n : Int} : IntegerText s n → Integer (.str s) n

/-- A truth value, one or zero, or one of the texts for it in letters of either case. -/
inductive Truth : Value → Bool → Prop
  | bool (b : Bool) : Truth (.bool b) b
  | zero : Truth (.int 0) false
  | one : Truth (.int 1) true
  | floatZero {x : Binary64} : x.equalInt 0 = true → Truth (.float x) false
  | floatOne {x : Binary64} : x.equalInt 1 = true → Truth (.float x) true
  | falseText {s : String} :
    String.ofList (s.toList.map Char.toLower) ∈ Check.falseTexts → Truth (.str s) false
  | trueText {s : String} :
    String.ofList (s.toList.map Char.toLower) ∈ Check.trueTexts → Truth (.str s) true

/-- Null for nothing, or what spells something. -/
def OrNull (R : Value → α → Prop) (v : Value) : Option α → Prop
  | Option.none => v = .null
  | some a => v ≠ .null ∧ R v a

end Spells

/-! ### White space around a text -/

section Trim

variable {p : Char → Bool} {cs core before after : List Char}

/-- What is taken off a text are characters of the class at its two ends. -/
theorem exists_trimList (p : Char → Bool) (cs : List Char) :
    ∃ before after, cs = before ++ trimList p cs ++ after ∧ (∀ c ∈ before, p c = true) ∧
      ∀ c ∈ after, p c = true := by
  let rest := cs.dropWhile p
  refine ⟨cs.takeWhile p, (rest.reverse.takeWhile p).reverse, ?_,
    fun c hc => List.mem_takeWhile_imp hc,
    fun c hc => List.mem_takeWhile_imp (List.mem_reverse.1 hc)⟩
  have hrest : trimList p cs ++ (rest.reverse.takeWhile p).reverse = rest := by
    rw [trimList, ← List.reverse_append, List.takeWhile_append_dropWhile, List.reverse_reverse]
  rw [List.append_assoc, hrest, List.takeWhile_append_dropWhile]

/-- A text that begins and ends otherwise is what is left when such characters stand around it. -/
theorem trimList_append (hbefore : ∀ c ∈ before, p c = true) (hafter : ∀ c ∈ after, p c = true)
    (hfirst : ∃ c, core.head? = some c ∧ p c = false)
    (hlast : ∃ c, core.getLast? = some c ∧ p c = false) :
    trimList p (before ++ core ++ after) = core := by
  obtain ⟨first, hfirst, hpf⟩ := hfirst
  obtain ⟨last, hlast, hpl⟩ := hlast
  obtain ⟨tail, rfl⟩ := List.head?_eq_some_iff.1 hfirst
  obtain ⟨front, hfront⟩ := List.getLast?_eq_some_iff.1 hlast
  have hdrop : (before ++ (first :: tail ++ after)).dropWhile p = first :: tail ++ after := by
    rw [List.dropWhile_append_of_pos hbefore, List.cons_append,
      List.dropWhile_cons_of_neg (by simp [hpf])]
  have hreverse : (first :: tail ++ after).reverse = after.reverse ++ (last :: front.reverse) := by
    rw [hfront, List.reverse_append, List.reverse_append]
    rfl
  rw [trimList, List.append_assoc, hdrop, hreverse,
    List.dropWhile_append_of_pos fun c hc => hafter c (List.mem_reverse.1 hc),
    List.dropWhile_cons_of_neg (by simp [hpl]), hfront]
  simp

end Trim

/-! ### Digits, sign and fraction -/

namespace Spells

variable {cs digits fraction sign : List Char} {ds : List Nat} {negative : Bool} {c : Char}

theorem isDigit_iff : c.isDigit = true ↔ (asciiDigit? c).isSome = true := by
  have hiff : c.isDigit = true ↔ '0' ≤ c ∧ c ≤ '9' := by
    simp only [Char.isDigit, Bool.and_eq_true, decide_eq_true_eq]
    exact Iff.rfl
  rw [hiff, asciiDigit?]
  split <;> simp_all

theorem isDigit_of_asciiDigit? {d : Nat} (h : asciiDigit? c = some d) : c.isDigit = true :=
  isDigit_iff.2 (by rw [h]; rfl)

theorem ne_of_isDigit (h : c.isDigit = true) {x : Char} (hx : x.isDigit = false) : c ≠ x := by
  rintro rfl
  rw [h] at hx
  cases hx

/-- All values of the digits are read. -/
theorem Digits.filterMap (h : Digits cs ds) : cs.filterMap asciiDigit? = ds := by
  induction h with
  | last hc => simp [hc]
  | next hc _ ih => simp [hc, ih]
  | apart hc _ ih =>
    have hnone : asciiDigit? '_' = Option.none := by decide
    simp [hc, hnone, ih]

/-- Digits begin with a digit and end with one. -/
theorem Digits.ends (h : Digits cs ds) : (∃ c, cs.head? = some c ∧ c.isDigit = true) ∧
    ∃ c, cs.getLast? = some c ∧ c.isDigit = true := by
  induction h with
  | last hc => exact ⟨⟨_, rfl, isDigit_of_asciiDigit? hc⟩, _, rfl, isDigit_of_asciiDigit? hc⟩
  | next hc hcs ih =>
    obtain ⟨-, c, hlast, hdigit⟩ := ih
    refine ⟨⟨_, rfl, isDigit_of_asciiDigit? hc⟩, c, ?_, hdigit⟩
    rw [List.getLast?_cons, hlast]
    rfl
  | apart hc hcs ih =>
    obtain ⟨-, c, hlast, hdigit⟩ := ih
    refine ⟨⟨_, rfl, isDigit_of_asciiDigit? hc⟩, c, ?_, hdigit⟩
    rw [List.getLast?_cons, List.getLast?_cons, hlast]
    rfl

theorem Digits.mem (h : Digits cs ds) : ∀ c ∈ cs, c.isDigit = true ∨ c = '_' := by
  induction h with
  | last hc => simp [isDigit_of_asciiDigit? hc]
  | next hc _ ih => exact List.forall_mem_cons.2 ⟨.inl (isDigit_of_asciiDigit? hc), ih⟩
  | apart hc _ ih =>
    exact List.forall_mem_cons.2 ⟨.inl (isDigit_of_asciiDigit? hc),
      List.forall_mem_cons.2 ⟨.inr rfl, ih⟩⟩

/-- Whether underscores stand apart is seen at the first two characters and in what follows the first. -/
theorem underscoresApart_cons_cons {c d : Char} {cs : List Char} :
    underscoresApart (c :: d :: cs) = true ↔ c ≠ '_' ∧ (d :: cs).getLast? ≠ some '_' ∧
      ((d :: cs).zip cs).all (fun (a, b) => !(a == '_' && b == '_')) = true := by
  by_cases hc : c = '_'
  · simp [underscoresApart, hc]
  · simp [underscoresApart, hc, List.getLast?_cons_cons]

theorem Digits.underscoresApart (h : Digits cs ds) : underscoresApart cs = true := by
  induction h with
  | last hc =>
    have hne := ne_of_isDigit (isDigit_of_asciiDigit? hc) (x := '_') (by decide)
    simp [Bringup.underscoresApart, hne]
  | @next c d cs ds hc hcs ih =>
    have hne := ne_of_isDigit (isDigit_of_asciiDigit? hc) (x := '_') (by decide)
    cases cs with
    | nil => cases hcs
    | cons e cs =>
      simp only [Bringup.underscoresApart, Bool.and_eq_true, bne_iff_ne] at ih
      exact underscoresApart_cons_cons.2 ⟨hne, ih.1.2, ih.2⟩
  | @apart c d cs ds hc hcs ih =>
    have hne := ne_of_isDigit (isDigit_of_asciiDigit? hc) (x := '_') (by decide)
    cases cs with
    | nil => cases hcs
    | cons e cs =>
      simp only [Bringup.underscoresApart, Bool.and_eq_true, bne_iff_ne] at ih
      have he : e ≠ '_' := fun heq => ih.1.1 (by rw [heq]; rfl)
      refine underscoresApart_cons_cons.2 ⟨hne, ?_, ?_⟩
      · rw [List.getLast?_cons_cons]
        exact ih.1.2
      · simpa [he] using ih.2

/-- Digits with underscores apart are as the grammar has them. -/
theorem exists_digits {cs : List Char} (hne : cs ≠ []) (hall : ∀ c ∈ cs, c.isDigit = true ∨ c = '_')
    (hapart : underscoresApart cs = true) : ∃ ds, Digits cs ds := by
  match cs, hne with
  | [c], _ =>
    have hc : c ≠ '_' := by simpa [underscoresApart] using hapart
    obtain ⟨d, hd⟩ := Option.isSome_iff_exists.1 (isDigit_iff.1 ((hall c (by simp)).resolve_right hc))
    exact ⟨[d], .last hd⟩
  | c :: e :: cs, _ =>
    obtain ⟨hc, hlast, hzip⟩ := underscoresApart_cons_cons.1 hapart
    obtain ⟨d, hd⟩ := Option.isSome_iff_exists.1 (isDigit_iff.1 ((hall c (by simp)).resolve_right hc))
    by_cases he : e = '_'
    -- an underscore: a digit must follow, as no second one does and the text does not end here
    · subst he
      match cs with
      | [] => exact absurd rfl hlast
      | f :: cs =>
        have hf : f ≠ '_' := by
          rintro rfl
          simp at hzip
        have hrest : underscoresApart (f :: cs) = true := by
          rw [List.getLast?_cons_cons] at hlast
          simp only [underscoresApart, Bool.and_eq_true, bne_iff_ne]
          refine ⟨⟨by simpa using hf, hlast⟩, ?_⟩
          simpa [hf] using hzip
        obtain ⟨ds, hds⟩ := exists_digits (List.cons_ne_nil _ _)
          (fun x hx => hall x (by simp only [List.mem_cons] at hx ⊢; tauto)) hrest
        exact ⟨d :: ds, .apart hd hds⟩
    · have hrest : underscoresApart (e :: cs) = true := by
        simp only [underscoresApart, Bool.and_eq_true, bne_iff_ne]
        exact ⟨⟨by simpa using he, hlast⟩, hzip⟩
      obtain ⟨ds, hds⟩ := exists_digits (List.cons_ne_nil _ _)
        (fun x hx => hall x (List.mem_cons_of_mem _ hx)) hrest
      exact ⟨d :: ds, .next hd hds⟩

/-- The sign at the start of a text is split off. -/
theorem sign_splitSign (cs : List Char) :
    ∃ sign, Sign sign (splitSign cs).1 ∧ cs = sign ++ (splitSign cs).2 := by
  unfold splitSign
  split
  · exact ⟨_, .minus, rfl⟩
  · exact ⟨_, .plus, rfl⟩
  · exact ⟨_, .none, rfl⟩

theorem Sign.splitSign (h : Sign sign negative)
    (hfirst : ∃ c, cs.head? = some c ∧ c.isDigit = true) :
    splitSign (sign ++ cs) = (negative, cs) := by
  obtain ⟨c, hc, hdigit⟩ := hfirst
  obtain ⟨rest, rfl⟩ := List.head?_eq_some_iff.1 hc
  have hminus := ne_of_isDigit hdigit (x := '-') (by decide)
  have hplus := ne_of_isDigit hdigit (x := '+') (by decide)
  cases h with
  | none => simp [Bringup.splitSign, hminus, hplus]
  | plus => rfl
  | minus => rfl

/-- What is left out of a text is a fraction of zeros. -/
theorem zeroFraction_dropZeroFraction (cs : List Char) :
    ∃ fraction, ZeroFraction fraction ∧ cs = Check.dropZeroFraction cs ++ fraction := by
  unfold Check.dropZeroFraction
  rw [List.span_eq_takeWhile_dropWhile]
  dsimp only
  split
  · rename_i c zeros hrest
    split
    · rename_i hzeros
      simp only [Bool.and_eq_true, Bool.not_eq_true', List.isEmpty_eq_false_iff, List.all_eq_true,
        beq_iff_eq] at hzeros
      have hc : c = '.' := by
        have hhead := List.head?_dropWhile_not (fun x : Char => decide (x ≠ '.')) cs
        rw [hrest] at hhead
        simpa using hhead
      obtain ⟨k, hk⟩ : ∃ k, zeros = List.replicate (k + 1) '0' := by
        refine ⟨zeros.length - 1, List.eq_replicate_iff.2 ⟨?_, hzeros.2⟩⟩
        have := List.length_pos_iff.2 hzeros.1
        omega
      refine ⟨c :: zeros, by rw [hc, hk]; exact .zeros k, ?_⟩
      rw [← hrest, List.takeWhile_append_dropWhile]
    · exact ⟨[], .none, (List.append_nil _).symm⟩
  · exact ⟨[], .none, (List.append_nil _).symm⟩

theorem ZeroFraction.dropZeroFraction (h : ZeroFraction fraction) (hdigits : '.' ∉ digits) :
    Check.dropZeroFraction (digits ++ fraction) = digits := by
  have hall : ∀ c ∈ digits, decide (c ≠ '.') = true := fun c hc =>
    decide_eq_true fun heq => hdigits (heq ▸ hc)
  unfold Check.dropZeroFraction
  rw [List.span_eq_takeWhile_dropWhile, List.takeWhile_append_of_pos hall,
    List.dropWhile_append_of_pos hall]
  cases h with
  | none => simp
  | zeros k => simp [List.replicate_succ]

/-- Digits without their fraction begin and end a text that is no white space. -/
theorem not_isWhiteSpace_of_isDigit (h : c.isDigit = true) : isWhiteSpace c = false := by
  by_contra hspace
  rw [Bool.not_eq_false, isWhiteSpace, CharSet.contains_eq_true_iff] at hspace
  obtain ⟨r, hr, hlow, hhigh⟩ := hspace
  simp only [Char.isDigit, Bool.and_eq_true, decide_eq_true_eq, ge_iff_le, UInt32.le_iff_toNat_le]
    at h
  have hlow' : 48 ≤ c.toNat := h.1
  have hhigh' : c.toNat ≤ 57 := h.2
  simp only [whiteSpace, List.mem_cons, List.not_mem_nil, or_false] at hr
  rcases hr with rfl | rfl | rfl | rfl | rfl | rfl | rfl | rfl | rfl | rfl <;> omega

/-! ### Texts of whole numbers -/

/-- A sign, digits and a fraction of zeros begin and end otherwise than white space. -/
theorem ends_of_number (hsign : Sign sign negative) (hdigits : Digits digits ds)
    (hfraction : ZeroFraction fraction) :
    (∃ c, (sign ++ digits ++ fraction).head? = some c ∧ isWhiteSpace c = false) ∧
      ∃ c, (sign ++ digits ++ fraction).getLast? = some c ∧ isWhiteSpace c = false := by
  obtain ⟨⟨first, hfirst, hf⟩, last, hlast, hl⟩ := hdigits.ends
  constructor
  · cases hsign with
    | none =>
      refine ⟨first, ?_, not_isWhiteSpace_of_isDigit hf⟩
      rw [List.nil_append, List.head?_append, hfirst]
      rfl
    | plus => exact ⟨'+', rfl, by decide⟩
    | minus => exact ⟨'-', rfl, by decide⟩
  · cases hfraction with
    | none =>
      refine ⟨last, ?_, not_isWhiteSpace_of_isDigit hl⟩
      rw [List.append_nil, List.getLast?_append, hlast]
      rfl
    | zeros k =>
      refine ⟨'0', ?_, by decide⟩
      rw [List.getLast?_append, List.replicate_succ', List.getLast?_cons, List.getLast?_concat]
      rfl

/-- A text as in the grammar is read. -/
theorem IntegerText.check {s : String} {n : Int} (h : IntegerText s n) :
    Check.integerText s = .valid n := by
  obtain ⟨before, sign, digits, fraction, after, negative, ds, htext, hbefore, hafter, hsign,
    hdigits, hfraction, hlimit, rfl⟩ := h
  obtain ⟨hfirst, hlast⟩ := ends_of_number hsign hdigits hfraction
  obtain ⟨⟨c, hc, hdigit⟩, -⟩ := hdigits.ends
  have htrim : trimList isWhiteSpace s.toList = sign ++ digits ++ fraction := by
    rw [htext, trimList_append hbefore hafter hfirst hlast]
  have hsplit : splitSign (sign ++ (digits ++ fraction)) = (negative, digits ++ fraction) :=
    hsign.splitSign ⟨c, by rw [List.head?_append, hc]; rfl, hdigit⟩
  have hpoint : '.' ∉ digits := fun hmem => by
    rcases hdigits.mem _ hmem with h | h <;> revert h <;> decide
  have hsome : digits.any (·.isDigit) = true :=
    List.any_eq_true.2 ⟨c, List.mem_of_mem_head? (by rw [hc]; rfl), hdigit⟩
  have hall : digits.all (fun c => c.isDigit || c == '_') = true := by
    rw [List.all_eq_true]
    intro x hx
    simpa using hdigits.mem x hx
  rw [List.append_assoc] at htrim hlimit
  simp only [Check.integerText, htrim, hsplit, Nat.not_lt.2 hlimit,
    hfraction.dropZeroFraction hpoint, hsome, hall, hdigits.underscoresApart, hdigits.filterMap,
    Bool.and_self, ↓reduceIte]

/-- A text that is read is as in the grammar. -/
theorem integerText_of_check {s : String} {n : Int} (h : Check.integerText s = .valid n) :
    IntegerText s n := by
  obtain ⟨before, after, htext, hbefore, hafter⟩ := exists_trimList isWhiteSpace s.toList
  obtain ⟨sign, hsign, hunsigned⟩ := sign_splitSign (trimList isWhiteSpace s.toList)
  obtain ⟨fraction, hfraction, hdigits⟩ :=
    zeroFraction_dropZeroFraction (splitSign (trimList isWhiteSpace s.toList)).2
  -- the parts of the text are those into which the check cuts it
  unfold Check.integerText at h
  dsimp only at h
  split at h
  · cases h
  rename_i hlimit
  split at h
  · rename_i hcheck
    simp only [Bool.and_eq_true, List.all_eq_true, Bool.or_eq_true, beq_iff_eq] at hcheck
    obtain ⟨⟨hany, hall⟩, hapart⟩ := hcheck
    have hne : Check.dropZeroFraction (splitSign (trimList isWhiteSpace s.toList)).2 ≠ [] := by
      intro hnil
      rw [hnil] at hany
      cases hany
    obtain ⟨ds, hds⟩ := exists_digits hne hall hapart
    have hcore : trimList isWhiteSpace s.toList =
        sign ++ Check.dropZeroFraction (splitSign (trimList isWhiteSpace s.toList)).2 ++ fraction := by
      rw [List.append_assoc, ← hdigits]
      exact hunsigned
    rw [hds.filterMap] at h
    refine ⟨before, sign, _, fraction, after, _, ds, ?_, hbefore, hafter, hsign, hds, hfraction, ?_,
      (Checked.valid.inj h).symm⟩
    · rw [← hcore]
      exact htext
    · rw [← hcore]
      exact Nat.not_lt.1 hlimit
  · cases h

end Spells

/-! ### Checks of single values -/

namespace Check

/-- A check that finds valid just what is as `P` says, and lists its problems otherwise, decides it. -/
theorem decides_of_iff {P : α → Prop} {c : Checked α} (hvalid : ∀ a, c = .valid a ↔ P a)
    (hproblems : c ≠ .invalid []) : c.Decides P := by
  cases c with
  | valid a =>
    intro b
    rw [← hvalid b]
    exact ⟨fun h => (Checked.valid.inj h).symm, fun h => by rw [h]⟩
  | invalid problems =>
    refine ⟨fun hnil => hproblems (by rw [hnil]), fun b hb => ?_⟩
    cases (hvalid b).2 hb

theorem decides_text (v : Value) : (text v).Decides (Spells.Text v) := by
  cases v with
  | str s =>
    refine (Checked.decides_valid s).congr fun t => ?_
    rw [Spells.Text, Value.str.injEq, eq_comm]
  | _ => exact Checked.decides_problem fun s h => by cases h

/-- A text with at least one character. -/
theorem decides_filledText (v : Value) :
    (filledText v).Decides fun s => Spells.Text v s ∧ s ≠ "" := by
  have hfilled : ∀ s, Spells.Text v s →
      (if s.isEmpty then Checked.problem .textTooShort else .valid s : Checked String).Decides
        fun t => t = s ∧ t ≠ "" := by
    intro s _
    by_cases hs : s = ""
    · rw [if_pos (by simp [hs])]
      exact Checked.decides_problem fun t ht => ht.2 (ht.1.trans hs)
    · rw [if_neg (by simpa using hs)]
      refine (Checked.decides_valid s).congr fun t => ?_
      constructor
      · rintro rfl
        exact ⟨rfl, hs⟩
      · exact And.left
  refine ((decides_text v).bind hfilled).congr fun t => ?_
  constructor
  · rintro ⟨s, hs, rfl, ht⟩
    exact ⟨hs, ht⟩
  · rintro ⟨hs, ht⟩
    exact ⟨t, hs, rfl, ht⟩

theorem decides_orNull {R : Value → α → Prop} {check : Value → Checked α}
    (h : ∀ v, (check v).Decides (R v)) (v : Value) :
    (orNull check v).Decides (Spells.OrNull R v) := by
  by_cases hv : v = .null
  · subst hv
    refine (Checked.decides_valid none).congr fun o => ?_
    cases o <;> simp [Spells.OrNull]
  · have hmap : orNull check v = (check v).map some := by
      cases v with
      | null => exact absurd rfl hv
      | _ => rfl
    rw [hmap]
    refine ((h v).map some).congr fun o => ?_
    cases o <;> simp [Spells.OrNull, hv]

/-- What is equal to a whole number is a whole number, and equal to no other. -/
theorem exists_truncate?_of_equalInt {x : Binary64} {n : Int} (h : x.equalInt n = true) :
    x.isWhole = true ∧ x.truncate? = some n ∧ ∀ m, x.equalInt m = true → n = m := by
  have hwhole : x.isWhole = true := by
    unfold Binary64.equalInt at h
    unfold Binary64.isWhole
    split at h
    · cases h
    · simp only [Bool.and_eq_true, beq_iff_eq] at h
      simp [h.1]
  obtain ⟨k, hk, hsame⟩ := Binary64.exists_truncate? hwhole
  obtain rfl := (hsame n).1 h
  exact ⟨hwhole, hk, fun m hm => (hsame m).1 hm⟩

/-- A floating-point number that is equal to a whole one is read as it. -/
theorem integerFloat_eq_valid_iff {x : Binary64} {n : Int} : integerFloat x = .valid n ↔
    x.equalInt n = true ∧ -floatBound < n ∧ n < floatBound := by
  constructor
  · intro h
    unfold integerFloat at h
    split at h
    · cases h
    rename_i m hm
    split at h
    · cases h
    rename_i hwhole
    obtain ⟨k, hk, hequal⟩ := Binary64.exists_truncate? (by simpa using hwhole)
    obtain rfl : m = k := Option.some.inj (hm.symm.trans hk)
    split at h
    · rename_i hbound
      obtain rfl := Checked.valid.inj h
      exact ⟨(hequal m).2 rfl, hbound⟩
    · cases h
  · rintro ⟨hequal, hbound⟩
    obtain ⟨hwhole, hn, -⟩ := exists_truncate?_of_equalInt hequal
    simp [integerFloat, hn, hwhole, hbound]

/-- A whole number, or a value that spells one. -/
theorem decides_integer (v : Value) : (integer v).Decides (Spells.Integer v) := by
  cases v with
  | int n =>
    refine (Checked.decides_valid n).congr fun m => ⟨?_, ?_⟩
    · rintro rfl
      exact .int m
    · rintro ⟨⟩
      rfl
  | bool b =>
    refine (Checked.decides_valid _).congr fun m => ⟨?_, ?_⟩
    · rintro rfl
      exact .bool b
    · rintro ⟨⟩
      rfl
  | float x =>
    refine decides_of_iff (fun n => integerFloat_eq_valid_iff.trans ⟨?_, ?_⟩) ?_
    · rintro ⟨hequal, hlow, hhigh⟩
      exact .float hequal hlow hhigh
    · rintro ⟨⟩
      exact ⟨‹_›, ‹_›, ‹_›⟩
    · change integerFloat x ≠ _
      unfold integerFloat
      repeat' split
      all_goals nofun
  | str s =>
    refine decides_of_iff (fun n => ⟨fun h => .str (Spells.integerText_of_check h), ?_⟩) ?_
    · rintro ⟨⟩
      exact Spells.IntegerText.check ‹_›
    · change integerText s ≠ _
      unfold integerText
      dsimp only
      repeat' split
      all_goals nofun
  | _ => exact Checked.decides_problem fun n h => by cases h

/-- No text stands for both truth values. -/
theorem not_mem_falseTexts {s : String} (h : s ∈ trueTexts) : s ∉ falseTexts := by
  have hall : ∀ t ∈ trueTexts, t ∉ falseTexts := by decide
  exact hall s h

/-- Two tests of which one at most holds decide between the truth values. -/
theorem decides_tests {P : Bool → Prop} {b : Bool} {this other : Prop} [Decidable this] [Decidable other]
    {kind : ProblemKind} (hthis : P b ↔ this) (hother : P (!b) ↔ other) (hboth : this → ¬ other) :
    (if this then Checked.valid b else if other then Checked.valid (!b)
      else Checked.problem kind).Decides P := by
  have hbool : ∀ c, c = b ∨ c = !b := by
    intro c
    cases b <;> cases c <;> simp
  split
  · rename_i ht
    intro c
    rcases hbool c with rfl | rfl
    · exact iff_of_true (hthis.2 ht) rfl
    · exact iff_of_false (fun h => hboth ht (hother.1 h)) (by simp)
  rename_i ht
  split
  · rename_i ho
    intro c
    rcases hbool c with rfl | rfl
    · exact iff_of_false (fun h => ht (hthis.1 h)) (by simp)
    · exact iff_of_true (hother.2 ho) rfl
  · rename_i ho
    refine Checked.decides_problem fun c hc => ?_
    rcases hbool c with rfl | rfl
    · exact ht (hthis.1 hc)
    · exact ho (hother.1 hc)

/-- A truth value, or a value that spells one. -/
theorem decides_truth (v : Value) : (truth v).Decides (Spells.Truth v) := by
  cases v with
  | bool b =>
    refine (Checked.decides_valid b).congr fun c => ⟨?_, ?_⟩
    · rintro rfl
      exact .bool c
    · rintro ⟨⟩
      rfl
  | int n =>
    have htruth : truth (.int n) = if n = 0 then .valid false else if n = 1 then .valid true
        else .problem .notATruthText := by
      unfold truth
      split <;> simp_all
    have hzero : Spells.Truth (.int n) false ↔ n = 0 := by
      constructor
      · rintro ⟨⟩
        rfl
      · rintro rfl
        exact .zero
    have hone : Spells.Truth (.int n) true ↔ n = 1 := by
      constructor
      · rintro ⟨⟩
        rfl
      · rintro rfl
        exact .one
    rw [htruth]
    exact decides_tests hzero hone (by omega)
  | float x =>
    have hzero : Spells.Truth (.float x) false ↔ x.equalInt 0 = true :=
      ⟨fun | .floatZero h => h, .floatZero⟩
    have hone : Spells.Truth (.float x) true ↔ x.equalInt 1 = true :=
      ⟨fun | .floatOne h => h, .floatOne⟩
    exact decides_tests hzero hone fun h₀ h₁ =>
      Int.zero_ne_one ((exists_truncate?_of_equalInt h₀).2.2 1 h₁)
  | str s =>
    have htrue : Spells.Truth (.str s) true ↔ String.ofList (s.toList.map Char.toLower) ∈ trueTexts :=
      ⟨fun | .trueText h => h, .trueText⟩
    have hfalse : Spells.Truth (.str s) false ↔ String.ofList (s.toList.map Char.toLower) ∈ falseTexts :=
      ⟨fun | .falseText h => h, .falseText⟩
    exact decides_tests htrue hfalse not_mem_falseTexts
  | _ => exact Checked.decides_problem fun c hc => by cases hc

end Check

end Bringup
