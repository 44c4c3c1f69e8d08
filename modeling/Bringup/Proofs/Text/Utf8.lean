import Bringup.Failure.Basic
import Bringup.Text.Utf8

/-!
# Reading UTF-8 inverts writing it

`String.utf8EncodeChar` writes one character.  `decodeUtf8_eq_ok_iff`: bytes are read as a text just when
they are its characters written one after another, so that all other bytes are refused.

* `Finishes` : the bytes that a pending character still takes, and the code point it ends up with;
* `encode_of_finishes`, `finishes_of_encode` : a lead byte with what finishes it is the encoding of a
  character, and every encoding beyond ASCII is of that form;
* `decodeFrom_encodeChar`, `exists_encodeChar_append` : one character is read from its encoding, and
  nothing else is read.

The ranges of `lead?` are what makes the two agree: they leave out the longer spellings of a character,
the surrogates, and the numbers beyond the last code point.
-/

namespace Bringup

namespace Utf8

/-! ### Pending characters -/

/-- A character whose lead byte has been taken. -/
def Lead.begin (l : Lead) (b : UInt8) (first : Nat) : Pending :=
  ⟨b, first, l.bits, 1, l.tails, l.low, l.high⟩

/-- What is pending after one more byte that is not the last. -/
def Pending.after (p : Pending) (b : UInt8) : Pending :=
  { p with
    bits := p.bits * 64 + (b.toNat - 0x80)
    taken := p.taken + 1
    owed := p.owed - 1
    low := 0x80
    high := 0xBF }

section
variable (l : Lead) (p : Pending) (b : UInt8) (first : Nat)

@[simp] theorem Lead.begin_bits : (l.begin b first).bits = l.bits := rfl

@[simp] theorem Lead.begin_owed : (l.begin b first).owed = l.tails := rfl

@[simp] theorem Lead.begin_low : (l.begin b first).low = l.low := rfl

@[simp] theorem Lead.begin_high : (l.begin b first).high = l.high := rfl

@[simp] theorem Pending.after_bits : (p.after b).bits = p.bits * 64 + (b.toNat - 0x80) := rfl

@[simp] theorem Pending.after_owed : (p.after b).owed = p.owed - 1 := rfl

@[simp] theorem Pending.after_low : (p.after b).low = 0x80 := rfl

@[simp] theorem Pending.after_high : (p.after b).high = 0xBF := rfl

end

/-- The bytes that finish a pending character, and its code point. -/
inductive Finishes : Pending → List UInt8 → Nat → Prop where
  | last {p : Pending} {b : UInt8} :
      p.low ≤ b → b ≤ p.high → p.owed ≤ 1 → Finishes p [b] (p.after b).bits
  | more {p : Pending} {b : UInt8} {tail : List UInt8} {n : Nat} :
      p.low ≤ b → b ≤ p.high → 1 < p.owed → Finishes (p.after b) tail n → Finishes p (b :: tail) n

variable {l : Lead} {p : Pending} {b : UInt8} {tail bytes : List UInt8} {cs : List Char}
  {n first pos : Nat}

theorem finishes_iff_of_one (hone : p.owed = 1) :
    Finishes p tail n ↔
      ∃ b, tail = [b] ∧ p.low.toNat ≤ b.toNat ∧ b.toNat ≤ p.high.toNat ∧
        p.bits * 64 + (b.toNat - 0x80) = n := by
  constructor
  · intro h
    cases h with
    | last hlow hhigh _ =>
      exact ⟨_, rfl, UInt8.le_iff_toNat_le.1 hlow, UInt8.le_iff_toNat_le.1 hhigh, rfl⟩
    | more _ _ hmore _ => omega
  · rintro ⟨b, rfl, hlow, hhigh, rfl⟩
    exact .last (UInt8.le_iff_toNat_le.2 hlow) (UInt8.le_iff_toNat_le.2 hhigh) (Nat.le_of_eq hone)

theorem finishes_iff_of_more (hmore : 1 < p.owed) :
    Finishes p tail n ↔
      ∃ b rest, tail = b :: rest ∧ p.low.toNat ≤ b.toNat ∧ b.toNat ≤ p.high.toNat ∧
        Finishes (p.after b) rest n := by
  constructor
  · intro h
    cases h with
    | last _ _ hone => omega
    | more hlow hhigh _ hrest =>
      exact ⟨_, _, rfl, UInt8.le_iff_toNat_le.1 hlow, UInt8.le_iff_toNat_le.1 hhigh, hrest⟩
  · rintro ⟨b, rest, rfl, hlow, hhigh, hrest⟩
    exact .more (UInt8.le_iff_toNat_le.2 hlow) (UInt8.le_iff_toNat_le.2 hhigh) hmore hrest

theorem decodeFrom_some_cons (hlow : p.low ≤ b) (hhigh : b ≤ p.high) :
    decodeFrom (some p) pos (b :: bytes) =
      if p.owed ≤ 1 then (Char.ofNat (p.after b).bits :: ·) <$> decodeFrom none (pos + 1) bytes
      else decodeFrom (some (p.after b)) (pos + 1) bytes := by
  have h : ¬ (b < p.low ∨ p.high < b) := by
    rw [not_or, UInt8.not_lt, UInt8.not_lt]
    exact ⟨hlow, hhigh⟩
  rw [decodeFrom, if_neg h]
  rfl

theorem decodeFrom_finishes (h : Finishes p tail n) (pos : Nat) (rest : List UInt8) :
    decodeFrom (some p) pos (tail ++ rest) =
      (Char.ofNat n :: ·) <$> decodeFrom none (pos + tail.length) rest := by
  induction h generalizing pos with
  | last hlow hhigh hone =>
    rw [List.singleton_append, decodeFrom_some_cons hlow hhigh, if_pos hone, List.length_singleton]
  | @more p b tail n hlow hhigh hmore _ ih =>
    rw [List.cons_append, decodeFrom_some_cons hlow hhigh, if_neg (by omega), ih,
      List.length_cons, Nat.add_assoc, Nat.add_comm 1]

theorem finishes_of_decodeFrom (h : decodeFrom (some p) pos bytes = .ok cs) :
    ∃ tail rest n, bytes = tail ++ rest ∧ Finishes p tail n := by
  induction bytes generalizing p pos with
  | nil => cases h
  | cons b bytes ih =>
    by_cases hb : b < p.low ∨ p.high < b
    · rw [decodeFrom, if_pos hb] at h
      cases h
    · rw [not_or, UInt8.not_lt, UInt8.not_lt] at hb
      rw [decodeFrom_some_cons hb.1 hb.2] at h
      split at h
      · rename_i hone
        exact ⟨[b], bytes, _, rfl, .last hb.1 hb.2 hone⟩
      · rename_i hmore
        obtain ⟨tail, rest, n, rfl, hfin⟩ := ih h
        exact ⟨b :: tail, rest, n, rfl, .more hb.1 hb.2 (by omega) hfin⟩

/-! ### The encoding of a character

Bytes and code points are compared as numbers here, so that what is left of each claim is linear. -/

theorem encodeChar_eq (c : Char) :
    String.utf8EncodeChar c =
      if c.toNat ≤ 0x7F then [UInt8.ofNat c.toNat]
      else if c.toNat ≤ 0x7FF then
        [UInt8.ofNat (c.toNat / 64 % 32 + 0xC0), UInt8.ofNat (c.toNat % 64 + 0x80)]
      else if c.toNat ≤ 0xFFFF then
        [UInt8.ofNat (c.toNat / 4096 % 16 + 0xE0), UInt8.ofNat (c.toNat / 64 % 64 + 0x80),
          UInt8.ofNat (c.toNat % 64 + 0x80)]
      else
        [UInt8.ofNat (c.toNat / 262144 % 8 + 0xF0), UInt8.ofNat (c.toNat / 4096 % 64 + 0x80),
          UInt8.ofNat (c.toNat / 64 % 64 + 0x80), UInt8.ofNat (c.toNat % 64 + 0x80)] := rfl

theorem toNat_ofNat_of_valid (h : n.isValidChar) : (Char.ofNat n).toNat = n := by
  rw [Char.ofNat, dif_pos h]
  exact UInt32.toNat_ofNatLT ..

theorem toNat_ofNat_of_lt (h : n < 256) : (UInt8.ofNat n).toNat = n :=
  UInt8.toNat_ofNat_of_lt' h

theorem ofNat_eq_iff (h : n < 256) : UInt8.ofNat n = b ↔ n = b.toNat := by
  rw [← UInt8.toNat_inj, toNat_ofNat_of_lt h]

theorem ite_toNat_le_iff {k x y : UInt8} (hyx : y ≤ x) :
    (if b = k then x else y).toNat ≤ n ↔ y.toNat ≤ n ∧ (b.toNat = k.toNat → x.toNat ≤ n) := by
  rw [UInt8.toNat_inj]
  have := UInt8.le_iff_toNat_le.1 hyx
  split
  · simp [*]
    omega
  · simp [*]

theorem le_ite_toNat_iff {k x y : UInt8} (hxy : x ≤ y) :
    n ≤ (if b = k then x else y).toNat ↔ n ≤ y.toNat ∧ (b.toNat = k.toNat → n ≤ x.toNat) := by
  rw [UInt8.toNat_inj]
  have := UInt8.le_iff_toNat_le.1 hxy
  split
  · simp [*]
    omega
  · simp [*]

theorem lead?_eq_some_iff :
    lead? b = some l ↔
      (0xC2 ≤ b.toNat ∧ b.toNat < 0xE0 ∧ l = ⟨b.toNat - 0xC0, 1, 0x80, 0xBF⟩) ∨
      (0xE0 ≤ b.toNat ∧ b.toNat < 0xF0 ∧
        l = ⟨b.toNat - 0xE0, 2, if b = 0xE0 then 0xA0 else 0x80, if b = 0xED then 0x9F else 0xBF⟩) ∨
      (0xF0 ≤ b.toNat ∧ b.toNat < 0xF5 ∧
        l = ⟨b.toNat - 0xF0, 3, if b = 0xF0 then 0x90 else 0x80, if b = 0xF4 then 0x8F else 0xBF⟩) := by
  simp only [lead?, UInt8.lt_iff_toNat_lt, UInt8.reduceToNat]
  constructor
  · intro h
    by_cases h₁ : b.toNat < 0xC2
    · simp [h₁] at h
    rw [if_neg h₁] at h
    by_cases h₂ : b.toNat < 0xE0
    · rw [if_pos h₂] at h
      exact .inl ⟨by omega, h₂, (Option.some.inj h).symm⟩
    rw [if_neg h₂] at h
    by_cases h₃ : b.toNat < 0xF0
    · rw [if_pos h₃] at h
      exact .inr (.inl ⟨by omega, h₃, (Option.some.inj h).symm⟩)
    rw [if_neg h₃] at h
    by_cases h₄ : b.toNat < 0xF5
    · rw [if_pos h₄] at h
      exact .inr (.inr ⟨by omega, h₄, (Option.some.inj h).symm⟩)
    · simp [h₄] at h
  · rintro (⟨hlow, hhigh, rfl⟩ | ⟨hlow, hhigh, rfl⟩ | ⟨hlow, hhigh, rfl⟩)
    · rw [if_neg (by omega), if_pos hhigh]
    · rw [if_neg (by omega), if_neg (by omega), if_pos hhigh]
    · rw [if_neg (by omega), if_neg (by omega), if_neg (by omega), if_pos hhigh]

/-- A lead byte and what finishes its character are the encoding of that character. -/
theorem encode_of_finishes (hlead : lead? b = some l) (h : Finishes (l.begin b first) tail n) :
    String.utf8EncodeChar (Char.ofNat n) = b :: tail := by
  rcases lead?_eq_some_iff.1 hlead with ⟨hlow, hhigh, hl⟩ | ⟨hlow, hhigh, hl⟩ | ⟨hlow, hhigh, hl⟩
  · obtain ⟨b₁, rfl, h₁, h₁', hn⟩ := (finishes_iff_of_one (by simp [hl])).1 h
    simp only [hl, Lead.begin_low, Lead.begin_high, Lead.begin_bits, UInt8.reduceToNat] at h₁ h₁' hn
    have hvalid : n.isValidChar := by omega
    rw [encodeChar_eq, toNat_ofNat_of_valid hvalid, if_neg (by omega), if_pos (by omega)]
    simp (disch := omega) only [List.cons.injEq, and_true, ofNat_eq_iff]
    omega
  · obtain ⟨b₁, rest, rfl, h₁, h₁', hrest⟩ := (finishes_iff_of_more (by simp [hl])).1 h
    obtain ⟨b₂, rfl, h₂, h₂', hn⟩ := (finishes_iff_of_one (by simp [hl])).1 hrest
    simp only [hl, Lead.begin_low, Lead.begin_high, Lead.begin_bits, Pending.after_low,
      Pending.after_high, Pending.after_bits, ite_toNat_le_iff, le_ite_toNat_iff, UInt8.reduceLE,
      UInt8.reduceToNat] at h₁ h₁' h₂ h₂' hn
    have hvalid : n.isValidChar := by omega
    rw [encodeChar_eq, toNat_ofNat_of_valid hvalid, if_neg (by omega), if_neg (by omega),
      if_pos (by omega)]
    simp (disch := omega) only [List.cons.injEq, and_true, ofNat_eq_iff]
    omega
  · obtain ⟨b₁, rest, rfl, h₁, h₁', hrest⟩ := (finishes_iff_of_more (by simp [hl])).1 h
    obtain ⟨b₂, rest, rfl, h₂, h₂', hrest⟩ := (finishes_iff_of_more (by simp [hl])).1 hrest
    obtain ⟨b₃, rfl, h₃, h₃', hn⟩ := (finishes_iff_of_one (by simp [hl])).1 hrest
    simp only [hl, Lead.begin_low, Lead.begin_high, Lead.begin_bits, Pending.after_low,
      Pending.after_high, Pending.after_bits, ite_toNat_le_iff, le_ite_toNat_iff, UInt8.reduceLE,
      UInt8.reduceToNat] at h₁ h₁' h₂ h₂' h₃ h₃' hn
    have hvalid : n.isValidChar := by omega
    rw [encodeChar_eq, toNat_ofNat_of_valid hvalid, if_neg (by omega), if_neg (by omega),
      if_neg (by omega)]
    simp (disch := omega) only [List.cons.injEq, and_true, ofNat_eq_iff]
    omega

/-- The encoding of a character beyond ASCII is a lead byte and what finishes the character. -/
theorem finishes_of_encode (c : Char) (hc : 0x80 ≤ c.toNat) :
    ∃ b tail l, String.utf8EncodeChar c = b :: tail ∧ 0x80 ≤ b.toNat ∧ lead? b = some l ∧
      ∀ first, Finishes (l.begin b first) tail c.toNat := by
  have hvalid : c.toNat.isValidChar := c.valid
  have hlast := toNat_ofNat_of_lt (n := c.toNat % 64 + 0x80) (by omega)
  rw [encodeChar_eq, if_neg (by omega)]
  -- two, three or four bytes: each byte after the first carries six bits
  split
  · have hlead := toNat_ofNat_of_lt (n := c.toNat / 64 % 32 + 0xC0) (by omega)
    refine ⟨_, _, _, rfl, by omega, lead?_eq_some_iff.2 (.inl ⟨by omega, by omega, rfl⟩),
      fun first => (finishes_iff_of_one rfl).2 ⟨_, rfl, ?_⟩⟩
    rw [hlast, Lead.begin_bits, hlead]
    simp only [Lead.begin_low, Lead.begin_high, UInt8.reduceToNat]
    omega
  have hmid := toNat_ofNat_of_lt (n := c.toNat / 64 % 64 + 0x80) (by omega)
  split
  · have hlead := toNat_ofNat_of_lt (n := c.toNat / 4096 % 16 + 0xE0) (by omega)
    refine ⟨_, _, _, rfl, by omega, lead?_eq_some_iff.2 (.inr (.inl ⟨by omega, by omega, rfl⟩)),
      fun first => (finishes_iff_of_more (by simp)).2 ⟨_, _, rfl, ?_, ?_,
        (finishes_iff_of_one rfl).2 ⟨_, rfl, ?_⟩⟩⟩
    · rw [Lead.begin_low, ite_toNat_le_iff (by decide), hmid, hlead]
      simp only [UInt8.reduceToNat]
      omega
    · rw [Lead.begin_high, le_ite_toNat_iff (by decide), hmid, hlead]
      simp only [UInt8.reduceToNat]
      omega
    · rw [hlast, Pending.after_bits, Lead.begin_bits, hmid, hlead]
      simp only [Pending.after_low, Pending.after_high, UInt8.reduceToNat]
      omega
  · have hlead := toNat_ofNat_of_lt (n := c.toNat / 262144 % 8 + 0xF0) (by omega)
    have hnext := toNat_ofNat_of_lt (n := c.toNat / 4096 % 64 + 0x80) (by omega)
    refine ⟨_, _, _, rfl, by omega, lead?_eq_some_iff.2 (.inr (.inr ⟨by omega, by omega, rfl⟩)),
      fun first => (finishes_iff_of_more (by simp)).2 ⟨_, _, rfl, ?_, ?_,
        (finishes_iff_of_more (by simp)).2 ⟨_, _, rfl, ?_, ?_,
          (finishes_iff_of_one rfl).2 ⟨_, rfl, ?_⟩⟩⟩⟩
    · rw [Lead.begin_low, ite_toNat_le_iff (by decide), hnext, hlead]
      simp only [UInt8.reduceToNat]
      omega
    · rw [Lead.begin_high, le_ite_toNat_iff (by decide), hnext, hlead]
      simp only [UInt8.reduceToNat]
      omega
    · simp only [hmid, Pending.after_low, UInt8.reduceToNat]
      omega
    · simp only [hmid, Pending.after_high, UInt8.reduceToNat]
      omega
    · rw [hlast, Pending.after_bits, Pending.after_bits, Lead.begin_bits, hnext, hmid, hlead]
      simp only [Pending.after_low, Pending.after_high, UInt8.reduceToNat]
      omega

/-! ### Texts -/

theorem decodeFrom_encodeChar (c : Char) (pos : Nat) (rest : List UInt8) :
    ∃ pos', decodeFrom none pos (String.utf8EncodeChar c ++ rest) =
      (c :: ·) <$> decodeFrom none pos' rest := by
  by_cases hc : c.toNat < 0x80
  · have hbyte := toNat_ofNat_of_lt (n := c.toNat) (by omega)
    refine ⟨pos + 1, ?_⟩
    rw [encodeChar_eq, if_pos (by omega), List.singleton_append, decodeFrom,
      if_pos (UInt8.lt_iff_toNat_lt.2 (by rw [hbyte]; exact hc)), hbyte, Char.ofNat_toNat]
  · obtain ⟨b, tail, l, hencode, hb, hlead, hfin⟩ := finishes_of_encode c (by omega)
    refine ⟨pos + 1 + tail.length, ?_⟩
    have hb : ¬ b < 0x80 := by
      rw [UInt8.lt_iff_toNat_lt]
      exact Nat.not_lt.2 hb
    have h := decodeFrom_finishes (hfin pos) (pos + 1) rest
    rw [Char.ofNat_toNat] at h
    rw [hencode, List.cons_append, decodeFrom, if_neg hb, hlead]
    exact h

/-- Bytes that are read begin with the encoding of a character. -/
theorem exists_encodeChar_append (h : decodeFrom none pos (b :: bytes) = .ok cs) :
    ∃ c rest, b :: bytes = String.utf8EncodeChar c ++ rest := by
  rw [decodeFrom] at h
  split at h
  · rename_i hb
    have hb : b.toNat < 0x80 := UInt8.lt_iff_toNat_lt.1 hb
    refine ⟨Char.ofNat b.toNat, bytes, ?_⟩
    rw [encodeChar_eq, toNat_ofNat_of_valid (by omega), if_pos (by omega), UInt8.ofNat_toNat]
    rfl
  split at h
  · cases h
  · rename_i l hlead
    obtain ⟨tail, rest, n, rfl, hfin⟩ := finishes_of_decodeFrom h
    refine ⟨Char.ofNat n, rest, ?_⟩
    rw [encode_of_finishes hlead hfin, List.cons_append]

/-- What is read from bytes that are not empty is a character and what is read from the bytes after it. -/
theorem exists_of_decodeFrom_cons (h : decodeFrom none pos (b :: bytes) = .ok cs) :
    ∃ c cs' rest pos', cs = c :: cs' ∧ b :: bytes = String.utf8EncodeChar c ++ rest ∧
      decodeFrom none pos' rest = .ok cs' := by
  obtain ⟨c, rest, hbytes⟩ := exists_encodeChar_append h
  obtain ⟨pos', hread⟩ := decodeFrom_encodeChar c pos rest
  rw [hbytes, hread] at h
  obtain ⟨cs', hrest, hcs⟩ := exists_of_map_eq_ok h
  exact ⟨c, cs', rest, pos', hcs.symm, hbytes, hrest⟩

theorem encode_of_decodeFrom (h : decodeFrom none pos bytes = .ok cs) :
    cs.flatMap String.utf8EncodeChar = bytes := by
  induction cs generalizing pos bytes with
  | nil =>
    cases bytes with
    | nil => rfl
    | cons b bytes =>
      obtain ⟨c, cs', rest, pos', hcs, -⟩ := exists_of_decodeFrom_cons h
      cases hcs
  | cons c cs ih =>
    cases bytes with
    | nil => cases h
    | cons b bytes =>
      obtain ⟨c', cs', rest, pos', hcs, hbytes, hrest⟩ := exists_of_decodeFrom_cons h
      obtain ⟨rfl, rfl⟩ := List.cons.inj hcs
      rw [List.flatMap_cons, ih hrest, hbytes]

theorem decodeFrom_encode (cs : List Char) (pos : Nat) :
    decodeFrom none pos (cs.flatMap String.utf8EncodeChar) = .ok cs := by
  induction cs generalizing pos with
  | nil => rfl
  | cons c cs ih =>
    obtain ⟨pos', hread⟩ := decodeFrom_encodeChar c pos (cs.flatMap String.utf8EncodeChar)
    rw [List.flatMap_cons, hread, ih]
    rfl

end Utf8

/-- Bytes are read as a text just when they are the encodings of its characters, one after another. -/
theorem decodeUtf8_eq_ok_iff {bytes : List UInt8} {cs : List Char} :
    decodeUtf8 bytes = .ok cs ↔ cs.flatMap String.utf8EncodeChar = bytes := by
  constructor
  · exact Utf8.encode_of_decodeFrom
  · rintro rfl
    exact Utf8.decodeFrom_encode cs 0

end Bringup
