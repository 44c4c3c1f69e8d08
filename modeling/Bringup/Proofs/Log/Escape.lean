import Bringup.Json.Writer
import Bringup.Proofs.Log.Leak

/-!
# User info in escaped texts

* `Json.isEscaped` : the characters that do not stand for themselves inside quotes;
* `exists_of_flatMap_eq` : a character that no escape holds cuts a text where it cuts the escaped one;
* `leaks_escape_iff` : an escaped text leaks just when the text leaks, or would leak if control characters
  counted as user info.

White space ends user info, but the escape of a tab or a line feed is a backslash and a letter, which do not.
-/

namespace Bringup.Json

open Credential

/-- A control character below U+0020. -/
def isControl (c : Char) : Bool := c.toNat < 0x20

/-- A character that is escaped inside quotes. -/
def isEscaped (c : Char) : Bool := c == '"' || c == '\\' || isControl c

variable {c : Char} {m s x y : List Char}

theorem escapeChar_of_not_isEscaped (h : isEscaped c = false) : escapeChar c = [c] := by
  simp only [isEscaped, isControl, Bool.or_eq_false_iff, beq_eq_false_iff_ne, ne_eq,
    decide_eq_false_iff_not] at h
  obtain ⟨⟨hquote, hbackslash⟩, hcontrol⟩ := h
  have hne : ∀ d : Char, d.toNat < 0x20 → c ≠ d := by
    rintro d hd rfl
    exact hcontrol hd
  simp only [escapeChar, hquote, hbackslash, or_self, if_false, hcontrol, hne '\n' (by decide),
    hne '\r' (by decide), hne '\t' (by decide), hne '\x08' (by decide), hne '\x0c' (by decide)]

/-- An escape begins with a backslash, and user info may hold all of it. -/
theorem escapeChar_of_isEscaped (h : isEscaped c = true) :
    (escapeChar c).head? = some '\\' ∧
      (escapeChar c).all (fun d => isUserInfo d && d != 'm') = true := by
  simp only [isEscaped, isControl, Bool.or_eq_true, beq_iff_eq, decide_eq_true_eq] at h
  rcases h with (rfl | rfl) | hcontrol
  · decide
  · decide
  · have hall : ∀ n < 0x20, (escapeChar (Char.ofNat n)).head? = some '\\' ∧
        (escapeChar (Char.ofNat n)).all (fun d => isUserInfo d && d != 'm') = true := by decide
    have hc := hall c.toNat hcontrol
    rwa [Char.ofNat_toNat] at hc

theorem of_mem_escapeChar (h : isEscaped c = true) {d : Char} (hd : d ∈ escapeChar c) :
    isUserInfo d = true ∧ d ≠ 'm' := by
  simpa using List.all_eq_true.1 (escapeChar_of_isEscaped h).2 d hd

/-- A character that no other's escape holds cuts a text where it cuts the escaped one. -/
theorem exists_of_flatMap_eq (hself : escapeChar c = [c]) (hother : ∀ d, c ∈ escapeChar d → d = c)
    (h : m.flatMap escapeChar = x ++ c :: y) :
    ∃ m₁ m₂, m = m₁ ++ c :: m₂ ∧ m₁.flatMap escapeChar = x ∧ m₂.flatMap escapeChar = y := by
  induction m generalizing x with
  | nil => simp at h
  | cons d m ih =>
    rw [List.flatMap_cons] at h
    rcases List.append_eq_append_iff.1 h with ⟨z, rfl, hz⟩ | ⟨z, hd, hz⟩
    · obtain ⟨m₁, m₂, rfl, rfl, rfl⟩ := ih hz
      exact ⟨d :: m₁, m₂, rfl, rfl, rfl⟩
    · cases z with
      | nil =>
        obtain ⟨m₁, m₂, rfl, hm₁, rfl⟩ := ih (x := []) hz.symm
        refine ⟨d :: m₁, m₂, rfl, ?_, rfl⟩
        rw [List.flatMap_cons, hm₁, hd, List.append_nil, List.append_nil]
      | cons c' z =>
        obtain ⟨rfl, rfl⟩ := List.cons.inj hz
        obtain rfl := hother d (hd ▸ List.mem_append_right x List.mem_cons_self)
        rw [hself] at hd
        obtain ⟨rfl, hz⟩ | ⟨_, _, hx⟩ := List.cons_eq_append_iff.1 hd
        · obtain ⟨-, rfl⟩ := List.cons.inj hz
          exact ⟨[], m, rfl, rfl, rfl⟩
        · simp at hx

/-- A part without backslashes of an escaped text stands for itself. -/
theorem exists_of_flatMap_eq_append (hs : '\\' ∉ s) (h : m.flatMap escapeChar = s ++ y) :
    ∃ m', m = s ++ m' ∧ m'.flatMap escapeChar = y := by
  induction s generalizing m with
  | nil => exact ⟨m, rfl, h⟩
  | cons c s ih =>
    cases m with
    | nil => cases h
    | cons d m =>
      rw [List.flatMap_cons] at h
      cases hd : isEscaped d with
      | true =>
        have hhead := (escapeChar_of_isEscaped hd).1
        obtain ⟨z, hz⟩ := List.head?_eq_some_iff.1 hhead
        rw [hz] at h
        obtain ⟨rfl, -⟩ := List.cons.inj h
        exact absurd List.mem_cons_self hs
      | false =>
        rw [escapeChar_of_not_isEscaped hd] at h
        obtain ⟨rfl, hrest⟩ := List.cons.inj h
        obtain ⟨m', rfl, hm'⟩ := ih (List.not_mem_of_not_mem_cons hs) hrest
        exact ⟨m', rfl, hm'⟩

/-- A text without characters that are escaped stays as it is. -/
theorem flatMap_escapeChar_eq_self (h : ∀ c ∈ s, isEscaped c = false) : s.flatMap escapeChar = s := by
  induction s with
  | nil => rfl
  | cons c s ih =>
    rw [List.flatMap_cons, escapeChar_of_not_isEscaped (h c List.mem_cons_self),
      ih fun d hd => h d (List.mem_cons_of_mem c hd)]
    rfl

theorem escapeChar_ne_nil (c : Char) : escapeChar c ≠ [] := by
  cases h : isEscaped c with
  | true =>
    intro hnil
    have hhead := (escapeChar_of_isEscaped h).1
    rw [hnil] at hhead
    cases hhead
  | false =>
    rw [escapeChar_of_not_isEscaped h]
    exact List.cons_ne_nil c []

/-- What is escaped counts as user info, except where it came from a character that is none. -/
theorem forall_isUserInfo_escapeChar_iff :
    (∀ d ∈ escapeChar c, isUserInfo d = true) ↔ (isUserInfo c || isControl c) = true := by
  cases h : isEscaped c with
  | true =>
    refine iff_of_true (fun d hd => (of_mem_escapeChar h hd).1) ?_
    simp only [isEscaped, Bool.or_eq_true, beq_iff_eq] at h
    rcases h with (rfl | rfl) | h
    · decide
    · decide
    · rw [h, Bool.or_true]
  | false =>
    have hcontrol : isControl c = false := (Bool.or_eq_false_iff.1 h).2
    rw [escapeChar_of_not_isEscaped h, hcontrol, Bool.or_false]
    exact List.forall_mem_singleton

/-- What only escapes as itself is in no other escape. -/
theorem eq_of_mem_escapeChar (hc : isUserInfo c = false ∨ c = 'm') {d : Char} (h : c ∈ escapeChar d) :
    d = c := by
  cases hd : isEscaped d with
  | true =>
    obtain ⟨hinfo, hm⟩ := of_mem_escapeChar hd h
    rcases hc with hc | hc
    · rw [hc] at hinfo
      cases hinfo
    · exact absurd hc hm
  | false =>
    rw [escapeChar_of_not_isEscaped hd] at h
    exact (List.mem_singleton.1 h).symm

theorem forall_isUserInfo_flatMap_iff : (∀ d ∈ s.flatMap escapeChar, isUserInfo d = true) ↔
    ∀ c ∈ s, (isUserInfo c || isControl c) = true := by
  simp only [List.mem_flatMap, ← forall_isUserInfo_escapeChar_iff]
  exact ⟨fun h c hc d hd => h d ⟨c, hc, hd⟩, fun h d ⟨c, hc, hd⟩ => h c hc d hd⟩

theorem not_isEscaped_of_mem_scheme {scheme : List Char} (hs : scheme ∈ schemes) (hc : c ∈ scheme) :
    isEscaped c = false := by
  have hall : ∀ scheme ∈ schemes, scheme.all (fun c => !isEscaped c) = true := by decide
  simpa using List.all_eq_true.1 (hall scheme hs) c hc

/-- What stands for hidden user info is not escaped, and no other text is escaped like it. -/
theorem flatMap_escapeChar_eq_hidden_iff :
    s.flatMap escapeChar ++ ['@'] = Credential.hidden ↔ s ++ ['@'] = Credential.hidden := by
  have hshown : "***:***".toList.flatMap escapeChar = "***:***".toList := by decide
  constructor
  · intro heq
    have hstars : s.flatMap escapeChar = "***:***".toList ++ [] := List.append_cancel_right heq
    obtain ⟨rest, rfl, hrest⟩ := exists_of_flatMap_eq_append (by decide) hstars
    cases rest with
    | nil => rfl
    | cons c rest => exact absurd (List.append_eq_nil_iff.1 hrest).1 (escapeChar_ne_nil c)
  · intro heq
    obtain rfl : s = "***:***".toList := List.append_cancel_right heq
    rw [hshown]
    rfl

/-- A URI of an escaped text was a URI before. -/
theorem leaksWith_of_leaks_escape (h : Leaks (m.flatMap escapeChar)) :
    LeaksWith (fun c => isUserInfo c || isControl c) m := by
  obtain ⟨uri, ⟨scheme, hs, info, rfl, hne, hinfo, hbare⟩, before, after, huri⟩ := h
  obtain ⟨t, rfl, -⟩ := exists_of_mem_schemes hs
  have hbackslash : '\\' ∉ t := fun hmem =>
    absurd (not_isEscaped_of_mem_scheme hs (List.mem_cons_of_mem _ hmem)) (by decide)
  have hm : m.flatMap escapeChar = before ++ 'm' :: (t ++ (info ++ '@' :: after)) := by simp [← huri]
  -- the scheme begins at an `m` that stands for itself, and the user info ends at such an `@`
  obtain ⟨m₁, m₂, rfl, -, hm₂⟩ :=
    exists_of_flatMap_eq (by decide) (fun d => eq_of_mem_escapeChar (.inr rfl)) hm
  obtain ⟨m₃, rfl, hm₃⟩ := exists_of_flatMap_eq_append hbackslash hm₂
  obtain ⟨info', m₄, rfl, rfl, -⟩ := exists_of_flatMap_eq (by decide)
    (fun d => eq_of_mem_escapeChar (.inl isUserInfo_at)) hm₃
  refine ⟨_, ⟨_, hs, info', rfl, ?_, forall_isUserInfo_flatMap_iff.1 hinfo, fun heq => ?_⟩, m₁, m₄,
    by simp⟩
  · rintro rfl
    exact hne rfl
  · exact hbare (flatMap_escapeChar_eq_hidden_iff.2 heq)

/-- A URI stays one when it is escaped. -/
theorem leaks_escape_of_leaksWith (h : LeaksWith (fun c => isUserInfo c || isControl c) m) :
    Leaks (m.flatMap escapeChar) := by
  obtain ⟨uri, ⟨scheme, hs, info, rfl, hne, hinfo, hbare⟩, before, after, rfl⟩ := h
  have hscheme := flatMap_escapeChar_eq_self fun c hc => not_isEscaped_of_mem_scheme hs hc
  refine ⟨scheme ++ info.flatMap escapeChar ++ ['@'],
    ⟨scheme, hs, _, rfl, fun hnil => ?_, forall_isUserInfo_flatMap_iff.2 hinfo, fun heq => ?_⟩,
    before.flatMap escapeChar, after.flatMap escapeChar, ?_⟩
  · obtain ⟨c, hc⟩ := List.exists_mem_of_ne_nil info hne
    exact escapeChar_ne_nil c (List.flatMap_eq_nil_iff.1 hnil c hc)
  · exact hbare (flatMap_escapeChar_eq_hidden_iff.1 heq)
  · have hat : escapeChar '@' = ['@'] := by decide
    simp only [List.flatMap_append, hscheme, List.flatMap_singleton, hat]

/-- Escapes make user info of control characters, and hide or show nothing else. -/
theorem leaks_escape_iff :
    Leaks (m.flatMap escapeChar) ↔ LeaksWith (fun c => isUserInfo c || isControl c) m :=
  ⟨leaksWith_of_leaks_escape, leaks_escape_of_leaksWith⟩

end Bringup.Json
