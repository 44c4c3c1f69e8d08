import Bringup.Log.Mask
import Mathlib.Data.List.TakeWhile

/-!
# User info that a text shows

* `Credential.Bare` : a database URI up to the `@` after its user info, which is not hidden;
* `Credential.Leaks` : such a URI stands in a text; `Credential.LeaksWith` is the same for any class of
  characters in place of those of user info;
* `leaksWith_cut` : a text cut at one character;
* `Credential.Masks` : how a masked text comes about, piece by piece;
* `not_leaks_mask` : a masked text leaks nothing.

What was put in place of user info is not read again, so `not_leaks_mask` has to exclude that the pieces of
a masked text make a URI together.  A piece is one character, or it begins with the `m` of a scheme and holds
a slash; neither can lie inside another URI.
-/

namespace Bringup.Credential

/-- A database URI up to the `@` after its user info; the user info consists of characters of `p`, and it is
not what stands for hidden user info. -/
def Bare (p : Char → Bool) (uri : List Char) : Prop :=
  ∃ scheme ∈ schemes, ∃ info, uri = scheme ++ info ++ ['@'] ∧ info ≠ [] ∧ (∀ c ∈ info, p c = true) ∧
    info ++ ['@'] ≠ hidden

/-- A URI with such user info stands somewhere in a text. -/
def LeaksWith (p : Char → Bool) (cs : List Char) : Prop := ∃ uri, Bare p uri ∧ uri <:+: cs

/-- A URI whose user info is not hidden stands somewhere in a text. -/
def Leaks (cs : List Char) : Prop := LeaksWith isUserInfo cs

variable {p : Char → Bool} {uri cs out x y scheme info after : List Char} {b c q : Char}

/-! ### Schemes and user info -/

theorem mem_schemes_iff :
    scheme ∈ schemes ↔ scheme = "mongodb://".toList ∨ scheme = "mongodb+srv://".toList := by
  simp [schemes]

/-- A scheme begins with an `m`, and no other comes. -/
theorem exists_of_mem_schemes (h : scheme ∈ schemes) : ∃ t, scheme = 'm' :: t ∧ 'm' ∉ t := by
  rcases mem_schemes_iff.1 h with rfl | rfl
  · exact ⟨"ongodb://".toList, by decide, by decide⟩
  · exact ⟨"ongodb+srv://".toList, by decide, by decide⟩

theorem slash_mem_scheme (h : scheme ∈ schemes) : '/' ∈ scheme := by
  rcases mem_schemes_iff.1 h with rfl | rfl <;> decide

theorem at_notMem_scheme (h : scheme ∈ schemes) : '@' ∉ scheme := by
  rcases mem_schemes_iff.1 h with rfl | rfl <;> decide

/-- Two schemes at the start of one text are the same. -/
theorem scheme_unique {other : List Char} (h : scheme ∈ schemes) (ho : other ∈ schemes)
    (heq : scheme ++ x = other ++ y) : scheme = other ∧ x = y := by
  rcases mem_schemes_iff.1 h with rfl | rfl <;> rcases mem_schemes_iff.1 ho with rfl | rfl <;>
    simp_all

theorem hidden_append : hidden ++ x = "***:***".toList ++ '@' :: x := rfl

theorem isUserInfo_at : isUserInfo '@' = false := by decide

theorem isUserInfo_slash : isUserInfo '/' = false := by decide

theorem notMem_of_isUserInfo (h : ∀ c ∈ info, isUserInfo c = true) (hc : isUserInfo c = false) :
    c ∉ info := by
  intro hmem
  rw [h c hmem] at hc
  cases hc

/-- The text before the first `@` and what follows. -/
theorem at_cut_unique {a : List Char} {z : List Char} (hx : '@' ∉ x) (ha : '@' ∉ a)
    (h : x ++ '@' :: y = a ++ '@' :: z) : x = a ∧ y = z := by
  have hbefore : ∀ {u v : List Char}, '@' ∉ u → (u ++ '@' :: v).takeWhile (· != '@') = u := by
    intro u v hu
    have hall : ∀ c ∈ u, (c != '@') = true := by
      rintro c hc
      rw [bne_iff_ne]
      rintro rfl
      exact hu hc
    rw [List.takeWhile_append_of_pos hall]
    simp
  obtain rfl : x = a := by rw [← hbefore hx, h, hbefore ha]
  exact ⟨rfl, by simpa using h⟩

/-! ### Where a URI can stand -/

/-- What a URI holds: characters of its scheme, user info, and the `@` at its end. -/
theorem Bare.mem (h : Bare p uri) (hc : c ∈ uri) :
    (∃ scheme ∈ schemes, c ∈ scheme) ∨ p c = true ∨ c = '@' := by
  obtain ⟨scheme, hscheme, info, rfl, -, hinfo, -⟩ := h
  simp only [List.mem_append, List.mem_singleton] at hc
  rcases hc with (hc | hc) | hc
  · exact .inl ⟨scheme, hscheme, hc⟩
  · exact .inr (.inl (hinfo c hc))
  · exact .inr (.inr hc)

theorem Bare.exists_eq_cons (h : Bare p uri) : ∃ t, uri = 'm' :: t := by
  obtain ⟨scheme, hscheme, info, rfl, -⟩ := h
  obtain ⟨t, rfl, -⟩ := exists_of_mem_schemes hscheme
  exact ⟨t ++ info ++ ['@'], rfl⟩

theorem LeaksWith.mono (h : LeaksWith p x) (hxy : x <:+: y) : LeaksWith p y := by
  obtain ⟨uri, huri, hx⟩ := h
  exact ⟨uri, huri, hx.trans hxy⟩

theorem not_leaksWith_nil : ¬ LeaksWith p [] := by
  rintro ⟨uri, huri, hnil⟩
  obtain ⟨t, rfl⟩ := huri.exists_eq_cons
  cases List.infix_nil.1 hnil

theorem leaksWith_cons :
    LeaksWith p (c :: cs) ↔ (∃ uri, Bare p uri ∧ uri <+: c :: cs) ∨ LeaksWith p cs := by
  simp only [LeaksWith, List.infix_cons_iff, and_or_left, exists_or]

/-- A URI in a text cut at one character stands before it, behind it, or across it. -/
theorem leaksWith_cut :
    LeaksWith p (x ++ q :: y) ↔
      LeaksWith p x ∨ LeaksWith p y ∨ ∃ s t, Bare p (s ++ q :: t) ∧ s <:+ x ∧ t <+: y := by
  constructor
  · rintro ⟨uri, huri, h⟩
    rcases List.infix_append_iff.1 h with h | h | ⟨s, t, rfl, hs, ht⟩
    · exact .inl ⟨uri, huri, h⟩
    · rcases List.infix_cons_iff.1 h with h | h
      · obtain ⟨t, rfl, ht⟩ := (List.prefix_cons_iff.1 h).resolve_left fun hnil => by
          obtain ⟨_, heq⟩ := huri.exists_eq_cons
          rw [hnil] at heq
          cases heq
        exact .inr (.inr ⟨[], t, huri, List.nil_suffix, ht⟩)
      · exact .inr (.inl ⟨uri, huri, h⟩)
    · rcases List.prefix_cons_iff.1 ht with rfl | ⟨t, rfl, hty⟩
      · rw [List.append_nil] at huri
        exact .inl ⟨s, huri, hs.isInfix⟩
      · exact .inr (.inr ⟨s, t, huri, hs, hty⟩)
  · rintro (h | h | ⟨s, t, huri, ⟨x, rfl⟩, ⟨y, rfl⟩⟩)
    · exact h.mono (List.prefix_append x _).isInfix
    · exact h.mono ((List.suffix_cons q y).trans (List.suffix_append x _)).isInfix
    · exact ⟨_, huri, x, y, by simp⟩

/-- No URI stands across a character that is in none. -/
theorem leaksWith_cut_of_outside (hscheme : ∀ scheme ∈ schemes, q ∉ scheme) (hp : p q = false)
    (hat : q ≠ '@') : LeaksWith p (x ++ q :: y) ↔ LeaksWith p x ∨ LeaksWith p y := by
  rw [leaksWith_cut]
  refine or_congr_right (or_iff_left ?_)
  rintro ⟨s, t, huri, -⟩
  rcases huri.mem (List.mem_append_right s List.mem_cons_self) with ⟨scheme, hs, hq⟩ | hq | hq
  · exact hscheme scheme hs hq
  · rw [hp] at hq
    cases hq
  · exact hat hq

/-- No URI stands across a blank. -/
theorem leaks_cut_blank (hb : isBlank b = true) : Leaks (x ++ b :: y) ↔ Leaks x ∨ Leaks y := by
  refine leaksWith_cut_of_outside (fun scheme hs hmem => ?_) (by simp [isUserInfo, hb]) ?_
  · have hblank : scheme.all (fun c => !isBlank c) = true := by
      rcases mem_schemes_iff.1 hs with rfl | rfl <;> decide
    have hnot := List.all_eq_true.1 hblank b hmem
    rw [hb] at hnot
    cases hnot
  · rintro rfl
    exact absurd hb (by decide)

/-- No URI ends with another character than `@`. -/
theorem leaksWith_concat (hq : q ≠ '@') : LeaksWith p (x ++ [q]) ↔ LeaksWith p x := by
  rw [leaksWith_cut]
  refine or_iff_left (not_or.2 ⟨not_leaksWith_nil, ?_⟩)
  rintro ⟨s, t, ⟨scheme, -, info, huri, -⟩, -, ht⟩
  obtain rfl := List.prefix_nil.1 ht
  exact hq (List.append_inj_right' huri rfl |> List.singleton_inj.1)

/-- No URI begins where there is no `m`. -/
theorem leaksWith_append_of_notMem (h : 'm' ∉ x) : LeaksWith p (x ++ y) ↔ LeaksWith p y := by
  induction x with
  | nil => rfl
  | cons c x ih =>
    rw [List.cons_append, leaksWith_cons, ih (List.not_mem_of_not_mem_cons h)]
    refine or_iff_right ?_
    rintro ⟨uri, huri, hstart⟩
    obtain ⟨t, rfl⟩ := huri.exists_eq_cons
    obtain rfl := (List.cons_prefix_cons.1 hstart).1
    exact h List.mem_cons_self

/-- No URI ends where there is no `@`. -/
theorem not_leaksWith_of_notMem (h : '@' ∉ x) : ¬ LeaksWith p x := by
  rintro ⟨uri, ⟨scheme, -, info, rfl, -⟩, hpart⟩
  exact h (hpart.subset (by simp))

/-! ### What the mask does -/

/-- A scheme at the start of a text. -/
theorem scheme?_eq_some_iff :
    scheme? cs = some (scheme, after) ↔ scheme ∈ schemes ∧ cs = scheme ++ after := by
  constructor
  · intro h
    obtain ⟨s, hs, hfound⟩ := List.exists_of_findSome?_eq_some h
    split at hfound
    · rename_i hstart
      obtain ⟨rest, rfl⟩ := List.isPrefixOf_iff_prefix.1 hstart
      simp only [List.drop_left, Option.some.injEq, Prod.mk.injEq] at hfound
      obtain ⟨rfl, rfl⟩ := hfound
      exact ⟨hs, rfl⟩
    · cases hfound
  · rintro ⟨hs, rfl⟩
    rcases mem_schemes_iff.1 hs with rfl | rfl <;> rfl

/-- What the mask looks for at the start of a text. -/
theorem match?_eq_some_iff :
    match? cs = some (scheme, info) ↔ scheme ∈ schemes ∧ info ≠ [] ∧ (∀ c ∈ info, isUserInfo c = true) ∧
      ∃ after, cs = scheme ++ info ++ '@' :: after := by
  constructor
  · intro h
    obtain ⟨⟨s, rest⟩, hscheme, hrest⟩ := Option.bind_eq_some_iff.1 h
    obtain ⟨hs, rfl⟩ := scheme?_eq_some_iff.1 hscheme
    simp only at hrest
    split at hrest
    · rename_i hfound
      simp only [Option.some.injEq, Prod.mk.injEq] at hrest
      obtain ⟨rfl, rfl⟩ := hrest
      simp only [Bool.and_eq_true, Bool.not_eq_eq_eq_not, Bool.not_true, List.isEmpty_eq_false_iff,
        beq_iff_eq, List.head?_eq_some_iff] at hfound
      obtain ⟨hne, after, hafter⟩ := hfound
      have hsplit := List.prefix_iff_eq_append.1 (List.takeWhile_prefix isUserInfo (l := rest))
      refine ⟨hs, hne, fun c hc => List.mem_takeWhile_imp hc, after, ?_⟩
      rw [List.append_assoc, ← hafter, hsplit]
    · cases hrest
  · rintro ⟨hs, hne, hinfo, after, rfl⟩
    have hrest : (info ++ '@' :: after).takeWhile isUserInfo = info := by
      simp [List.takeWhile_append_of_pos hinfo, isUserInfo_at]
    simp only [match?, scheme?_eq_some_iff.2 ⟨hs, List.append_assoc _ _ _⟩, Option.bind_some, hrest,
      List.drop_left, List.head?_cons, BEq.rfl, Bool.and_true, Bool.not_eq_eq_eq_not, Bool.not_true,
      List.isEmpty_eq_false_iff, ne_eq, hne, not_false_eq_true, if_true]

theorem maskFrom_append (skipped cs : List Char) :
    maskFrom skipped.length (skipped ++ cs) = maskFrom 0 cs := by
  induction skipped with
  | nil => rfl
  | cons c skipped ih => exact ih

/-- A URI at the start of a text loses its user info, and the rest is masked by itself. -/
theorem mask_uri (hs : scheme ∈ schemes) (hne : info ≠ []) (hinfo : ∀ c ∈ info, isUserInfo c = true) :
    mask (scheme ++ info ++ '@' :: after) = scheme ++ hidden ++ mask after := by
  have hfound := match?_eq_some_iff.2 ⟨hs, hne, hinfo, after, rfl⟩
  obtain ⟨t, rfl, -⟩ := exists_of_mem_schemes hs
  -- scheme and user info are as long together as what is skipped behind the first character
  have hlength : ('m' :: t).length + info.length = (t ++ info ++ ['@']).length := by
    simp only [List.length_append, List.length_cons, List.length_nil]
    omega
  have hcut : t ++ info ++ '@' :: after = t ++ info ++ ['@'] ++ after := by simp
  simp only [List.cons_append, hcut] at hfound ⊢
  simp only [mask, maskFrom, hfound, hlength, maskFrom_append, List.cons_append]

/-- How a masked text comes about: user info is hidden where the mask finds it, and any other character
stands as it is. -/
inductive Masks : List Char → List Char → Prop
  | nil : Masks [] []
  | hide {scheme info after out : List Char} : scheme ∈ schemes → Masks after out →
    Masks (scheme ++ info ++ '@' :: after) (scheme ++ hidden ++ out)
  | keep {c : Char} {cs out : List Char} : match? (c :: cs) = none → Masks cs out →
    Masks (c :: cs) (c :: out)

theorem masks_mask (cs : List Char) : Masks cs (mask cs) := by
  match cs with
  | [] => exact .nil
  | c :: cs =>
    cases h : match? (c :: cs) with
    | none =>
      have hmask : mask (c :: cs) = c :: mask cs := by simp only [mask, maskFrom, h]
      rw [hmask]
      exact .keep h (masks_mask cs)
    | some found =>
      obtain ⟨scheme, info⟩ := found
      obtain ⟨hs, hne, hinfo, after, hcs⟩ := match?_eq_some_iff.1 h
      rw [hcs, mask_uri hs hne hinfo]
      exact .hide hs (masks_mask after)
termination_by cs.length
decreasing_by
  · simp
  · rw [hcs]
    simp only [List.length_append, List.length_cons]
    omega

/-! ### A masked text leaks nothing -/

/-- The first character of a masked text was there before, or a URI was hidden. -/
theorem Masks.cons_cases (h : Masks cs (c :: out)) :
    (∃ rest, cs = c :: rest ∧ Masks rest out) ∨
      ∃ scheme ∈ schemes, ∃ out', c :: out = scheme ++ hidden ++ out' := by
  generalize hout : c :: out = masked at h
  cases h with
  | nil => cases hout
  | hide hs hrest => exact .inr ⟨_, hs, _, rfl⟩
  | keep hfree hrest =>
    obtain ⟨rfl, rfl⟩ := List.cons.inj hout
    exact .inl ⟨_, rfl, hrest⟩

/-- Where a masked text has no `m`, the text was the same. -/
theorem Masks.same_of_notMem (h : Masks cs (x ++ out)) (hx : 'm' ∉ x) :
    ∃ rest, cs = x ++ rest ∧ Masks rest out := by
  induction x generalizing cs with
  | nil => exact ⟨cs, rfl, h⟩
  | cons c x ih =>
    rcases h.cons_cases with ⟨rest, rfl, hrest⟩ | ⟨scheme, hs, out', hout⟩
    · obtain ⟨rest, rfl, hmasks⟩ := ih hrest (List.not_mem_of_not_mem_cons hx)
      exact ⟨rest, rfl, hmasks⟩
    · obtain ⟨t, rfl, -⟩ := exists_of_mem_schemes hs
      obtain ⟨rfl, -⟩ := List.cons.inj hout
      exact absurd List.mem_cons_self hx

/-- Where a masked text has user info and an `@`, the text was the same: what is put for a URI has a slash
before its first `@`. -/
theorem Masks.same_of_isUserInfo (h : Masks cs (info ++ '@' :: out))
    (hinfo : ∀ c ∈ info, isUserInfo c = true) : ∃ rest, cs = info ++ '@' :: rest := by
  induction info generalizing cs with
  | nil =>
    obtain ⟨rest, hrest, -⟩ := h.same_of_notMem (x := ['@']) (by decide)
    exact ⟨rest, hrest⟩
  | cons c info ih =>
    rcases h.cons_cases with ⟨rest, rfl, hrest⟩ | ⟨scheme, hs, out', hout⟩
    · obtain ⟨rest, rfl⟩ := ih hrest fun c hc => hinfo c (List.mem_cons_of_mem _ hc)
      exact ⟨rest, rfl⟩
    · have hat : '@' ∉ scheme ++ "***:***".toList := by simp [at_notMem_scheme hs]
      rw [List.append_assoc, hidden_append, ← List.append_assoc] at hout
      have hinfo_at : '@' ∉ c :: info := notMem_of_isUserInfo hinfo isUserInfo_at
      obtain ⟨hshown, -⟩ := at_cut_unique hinfo_at hat hout
      have hslash : '/' ∈ c :: info := hshown ▸ List.mem_append_left _ (slash_mem_scheme hs)
      exact absurd hslash (notMem_of_isUserInfo hinfo isUserInfo_slash)

/-- A masked text shows no user info but what stands for hidden one. -/
theorem Masks.not_leaks (h : Masks cs out) : ¬ Leaks out := by
  induction h with
  | nil => exact not_leaksWith_nil
  | @hide scheme _ _ out hs hrest ih =>
    obtain ⟨t, rfl, ht⟩ := exists_of_mem_schemes hs
    have hno : 'm' ∉ t ++ hidden := by
      rw [List.mem_append]
      exact not_or.2 ⟨ht, by decide⟩
    rw [Leaks, List.append_assoc, List.cons_append, leaksWith_cons, ← List.append_assoc,
      leaksWith_append_of_notMem hno]
    -- a URI that starts here has this scheme, and thus what stands for hidden user info
    rintro (⟨uri, ⟨scheme, hs', info, rfl, -, hinfo, hbare⟩, rest, hout⟩ | h)
    · obtain ⟨-, hshown⟩ := scheme_unique (x := info ++ '@' :: rest) (y := hidden ++ out) hs' hs
        (by simpa using hout)
      rw [hidden_append] at hshown
      obtain ⟨rfl, -⟩ := at_cut_unique (notMem_of_isUserInfo hinfo isUserInfo_at) (by decide) hshown
      exact hbare rfl
    · exact ih h
  | @keep c cs out hfree hrest ih =>
    -- one that starts at a kept character stood in the text before, where it would have been found
    rw [Leaks, leaksWith_cons]
    rintro (⟨uri, ⟨scheme, hs, info, rfl, hne, hinfo, -⟩, rest, hout⟩ | h)
    · obtain ⟨t, rfl, ht⟩ := exists_of_mem_schemes hs
      simp only [List.cons_append, List.append_assoc, List.nil_append, List.cons.injEq] at hout
      obtain ⟨rfl, rfl⟩ := hout
      obtain ⟨cs, rfl, hmasks⟩ := hrest.same_of_notMem ht
      obtain ⟨after, rfl⟩ := hmasks.same_of_isUserInfo hinfo
      have hfound := match?_eq_some_iff.2 ⟨hs, hne, hinfo, after, rfl⟩
      rw [List.append_assoc, List.cons_append, hfree] at hfound
      cases hfound
    · exact ih h

theorem not_leaks_mask (cs : List Char) : ¬ Leaks (mask cs) := (masks_mask cs).not_leaks

end Bringup.Credential
