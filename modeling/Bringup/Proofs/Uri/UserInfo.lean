import Bringup.Text.Search
import Bringup.Uri
import Mathlib.Data.List.Infix

/-!
# User info of a URI is hidden

* `Uri.throughScheme?_append`, `Uri.exists_of_throughScheme?` : the scheme ends with the first `://`;
* `Uri.fromLastAt?_append`, `Uri.exists_of_fromLastAt?` : the host begins behind the last `@`;
* `Uri.maskUserInfo_twice` : what was hidden once is hidden, provided two characters were there to be kept;
* `Uri.masked_hides_userInfo` : the text that is shown does not depend on the user info.

The two ends of the user info are looked for from the two ends of the text, and so they may be missing, or
stand in the wrong order.  In such a text nothing is hidden, or a part of it is shown twice, but the mask
itself holds neither of the two marks, so hiding again finds the ends where they were.  Where no `://` shows
the start, two characters are kept, whatever they are: in `"@"` there is only one, and it is the `@` itself.
-/

namespace Bringup.Uri

variable {uri before after scheme info rest tail p : List Char} {c : Char}

/-- What ends a scheme. -/
def separator : List Char := [':', '/', '/']

/-! ### The two ends -/

theorem throughScheme?_cons (h : ¬ separator <+: c :: before) :
    throughScheme? (c :: before) = (throughScheme? before).map (c :: ·) := by
  rw [throughScheme?.eq_def (c :: before)]
  split
  case h_1 cs heq =>
    rw [heq] at h
    exact absurd (List.prefix_append separator cs) h
  case h_2 heq =>
    obtain ⟨rfl, rfl⟩ := List.cons.inj heq
    rfl
  case h_3 heq => cases heq

/-- A text without a separator is a scheme as soon as one follows: no separator begins in it and ends
behind it. -/
theorem throughScheme?_append (h : ¬ separator <:+: scheme) (rest : List Char) :
    throughScheme? (scheme ++ (separator ++ rest)) = some (scheme ++ separator) := by
  induction scheme with
  | nil => rfl
  | cons c scheme ih =>
    -- a separator that begins here ends before the one that follows the scheme, or would share a colon
    have hstart : ¬ separator <+: c :: (scheme ++ (separator ++ rest)) := by
      intro hpre
      match scheme with
      | [] => simp [separator] at hpre
      | [_] => simp [separator] at hpre
      | d :: e :: scheme =>
        simp only [separator, List.cons_append, List.cons_prefix_cons, List.nil_prefix, and_true] at hpre
        obtain ⟨rfl, rfl, rfl⟩ := hpre
        exact h (List.prefix_append separator scheme).isInfix
    rw [List.cons_append, throughScheme?_cons hstart,
      ih fun hin => h (hin.trans (List.suffix_cons c scheme).isInfix)]
    rfl

theorem exists_of_throughScheme? (h : throughScheme? uri = some p) :
    ∃ scheme rest, uri = scheme ++ (separator ++ rest) ∧ p = scheme ++ separator ∧
      ¬ separator <:+: scheme := by
  induction uri generalizing p with
  | nil => cases h
  | cons c uri ih =>
    by_cases hstart : separator <+: c :: uri
    · obtain ⟨rest, hrest⟩ := hstart
      rw [← hrest] at h ⊢
      obtain rfl := Option.some.inj h
      exact ⟨[], rest, rfl, rfl, by decide⟩
    · rw [throughScheme?_cons hstart] at h
      obtain ⟨p', hp', rfl⟩ := Option.map_eq_some_iff.1 h
      obtain ⟨scheme, rest, rfl, rfl, hno⟩ := ih hp'
      refine ⟨c :: scheme, rest, rfl, rfl, fun hin => ?_⟩
      rcases List.infix_cons_iff.1 hin with hpre | hin
      · exact hstart (hpre.trans (List.prefix_append (c :: scheme) _))
      · exact hno hin

theorem throughScheme?_eq_none_iff : throughScheme? uri = none ↔ ¬ separator <:+: uri := by
  constructor
  · intro h
    induction uri with
    | nil => decide
    | cons c uri ih =>
      have hstart : ¬ separator <+: c :: uri := by
        rintro ⟨rest, hrest⟩
        rw [← hrest] at h
        cases h
      rw [throughScheme?_cons hstart, Option.map_eq_none_iff] at h
      rw [List.infix_cons_iff, not_or]
      exact ⟨hstart, ih h⟩
  · intro h
    cases hp : throughScheme? uri with
    | none => rfl
    | some p =>
      obtain ⟨scheme, rest, rfl, -, -⟩ := exists_of_throughScheme? hp
      exact absurd ⟨scheme, rest, by simp⟩ h

theorem fromLastAt?_append (h : '@' ∉ rest) : fromLastAt? (before ++ '@' :: rest) = some ('@' :: rest) := by
  induction before with
  | nil =>
    have hnone := fromLastAt?_eq_none_iff.2 h
    simp [fromLastAt?, hnone]
  | cons c before ih => simp only [List.cons_append, fromLastAt?, ih]

theorem exists_of_fromLastAt? (h : fromLastAt? uri = some tail) :
    ∃ before rest, uri = before ++ '@' :: rest ∧ tail = '@' :: rest ∧ '@' ∉ rest := by
  induction uri with
  | nil => cases h
  | cons c uri ih =>
    rw [fromLastAt?] at h
    cases hrest : fromLastAt? uri with
    | some tail' =>
      rw [hrest] at h ih
      obtain ⟨before, rest, rfl, htail, hno⟩ := ih h
      exact ⟨c :: before, rest, rfl, htail, hno⟩
    | none =>
      rw [hrest] at h
      simp only [Option.ite_none_right_eq_some, Option.some.injEq] at h
      obtain ⟨rfl, rfl⟩ := h
      exact ⟨[], uri, rfl, rfl, fromLastAt?_eq_none_iff.1 hrest⟩

/-! ### What is hidden -/

/-- A text with an `@` keeps its end from the last one on, and its start up to the first separator. -/
theorem maskUserInfo_append (h : '@' ∉ rest) : maskUserInfo (before ++ '@' :: rest) =
    (throughScheme? (before ++ '@' :: rest)).getD ((before ++ '@' :: rest).take 2) ++ mask ++
      '@' :: rest := by
  rw [maskUserInfo, fromLastAt?_append h]

/-- The user info is hidden, whatever it is. -/
theorem maskUserInfo_userInfo (hscheme : ¬ separator <:+: scheme) (hrest : '@' ∉ rest) :
    maskUserInfo (scheme ++ separator ++ info ++ '@' :: rest) =
      scheme ++ separator ++ mask ++ '@' :: rest := by
  have hthrough : throughScheme? (scheme ++ separator ++ info ++ '@' :: rest) =
      some (scheme ++ separator) := by
    simpa using throughScheme?_append hscheme (info ++ '@' :: rest)
  rw [maskUserInfo_append hrest, hthrough, Option.getD_some]

/-- No separator stands across a character that it does not hold. -/
theorem separator_infix_cut (hc : c ∉ separator) (h : separator <:+: before ++ c :: after) :
    separator <:+: before ∨ separator <:+: after := by
  rcases List.infix_append_iff.1 h with h | h | ⟨s, t, heq, hs, ht⟩
  · exact .inl h
  · rcases List.infix_cons_iff.1 h with h | h
    · rcases List.prefix_cons_iff.1 h with hnil | ⟨t, heq, -⟩
      · cases hnil
      · exact absurd (heq ▸ List.mem_cons_self) hc
    · exact .inr h
  · rcases List.prefix_cons_iff.1 ht with rfl | ⟨t, rfl, -⟩
    · rw [List.append_nil] at heq
      exact .inl (heq ▸ hs.isInfix)
    · exact absurd (heq ▸ List.mem_append_right s List.mem_cons_self) hc

/-- No separator comes about where the mask is put between two parts of a text. -/
theorem separator_infix_mask (h : separator <:+: before ++ mask ++ after) :
    separator <:+: before ∨ separator <:+: after := by
  have hcut : before ++ mask ++ after =
      before ++ '*' :: ("**:**".toList ++ '*' :: after) := by simp [mask]
  rw [hcut] at h
  rcases separator_infix_cut (by decide) h with h | h
  · exact .inl h
  · exact .inr ((separator_infix_cut (by decide) h).resolve_left (by decide))

/-- A text that shows no start of its user info keeps two characters. -/
theorem maskUserInfo_of_no_separator (hno : ¬ separator <:+: before ++ '@' :: rest) (hrest : '@' ∉ rest) :
    maskUserInfo (before ++ '@' :: rest) = (before ++ '@' :: rest).take 2 ++ mask ++ '@' :: rest := by
  rw [maskUserInfo_append hrest, throughScheme?_eq_none_iff.2 hno, Option.getD_none]

/-- What is hidden once is hidden: where two characters are kept, there must be two. -/
theorem maskUserInfo_twice (h : uri ≠ ['@']) :
    maskUserInfo (maskUserInfo uri) = maskUserInfo uri := by
  cases hlast : fromLastAt? uri with
  | none =>
    have hsame : maskUserInfo uri = uri := by rw [maskUserInfo, hlast]
    rw [hsame, hsame]
  | some tail =>
    obtain ⟨before, rest, rfl, -, hrest⟩ := exists_of_fromLastAt? hlast
    cases hthrough : throughScheme? (before ++ '@' :: rest) with
    | some p =>
      obtain ⟨scheme, rest', -, rfl, hscheme⟩ := exists_of_throughScheme? hthrough
      rw [maskUserInfo_append hrest, hthrough, Option.getD_some]
      exact maskUserInfo_userInfo hscheme hrest
    | none =>
      have hno := throughScheme?_eq_none_iff.1 hthrough
      have hstill : ¬ separator <:+: (before ++ '@' :: rest).take 2 ++ mask ++ '@' :: rest := by
        intro hin
        rcases separator_infix_mask hin with hin | hin
        · exact hno (hin.trans (List.take_prefix 2 _).isInfix)
        · exact hno (hin.trans (List.suffix_append before _).isInfix)
      have htwo : ((before ++ '@' :: rest).take 2).length = 2 := by
        refine List.length_take_of_le ?_
        cases before with
        | nil => cases rest <;> simp_all
        | cons d before =>
          rw [List.length_append, List.length_cons, List.length_cons]
          omega
      rw [maskUserInfo_of_no_separator hno hrest, maskUserInfo_of_no_separator hstill hrest]
      simp only [List.append_assoc, List.take_left' htwo]

/-- **Hiding the user info of a URI.**  In a text that shows where its user info begins and ends, what is
shown does not depend on it, even if it holds the marks of both ends itself.  A text without an `@` is shown
as it is.  Hiding twice is hiding once, but for the text `"@"`. -/
theorem masked_hides_userInfo (scheme info rest uri : String) :
    (holdsText "://" scheme = false → '@' ∉ rest.toList →
      masked (scheme ++ "://" ++ info ++ "@" ++ rest) = scheme ++ "://***:***@" ++ rest) ∧
    ('@' ∉ uri.toList → masked uri = uri) ∧ (masked (masked uri) = masked uri ↔ uri ≠ "@") := by
  refine ⟨fun hscheme hrest => ?_, fun hat => ?_, ?_, fun hne => ?_⟩
  · have hno : ¬ separator <:+: scheme.toList := by
      rintro ⟨before, after, heq⟩
      have htrue := holdsList_eq_true_iff.2 ⟨before, after, heq.symm⟩
      exact absurd (htrue.symm.trans hscheme) (by decide)
    have hmasked : maskUserInfo (scheme.toList ++ separator ++ info.toList ++ '@' :: rest.toList) = _ :=
      maskUserInfo_userInfo hno hrest
    refine String.toList_injective ?_
    rw [masked, String.toList_ofList]
    simpa [separator, mask] using hmasked
  · rw [masked, maskUserInfo, fromLastAt?_eq_none_iff.2 hat, String.ofList_toList]
  · rintro h rfl
    exact absurd h (by decide)
  · have htwice : maskUserInfo (maskUserInfo uri.toList) = maskUserInfo uri.toList :=
      maskUserInfo_twice fun heq => hne (String.toList_injective heq)
    rw [masked, masked, String.toList_ofList, htwice]

/-- User info with both marks in it, and a text that shows no start. -/
theorem masked_hides_userInfo_twice :
    masked ("mongodb" ++ "://" ++ "a@b/c://d:e" ++ "@" ++ "host") = "mongodb" ++ "://***:***@" ++ "host" ∧
      masked "host:27017" = "host:27017" ∧ masked (masked "root:secret@host") = masked "root:secret@host" :=
  ⟨(masked_hides_userInfo "mongodb" "a@b/c://d:e" "host" "").1 (by decide) (by decide),
    (masked_hides_userInfo "" "" "" "host:27017").2.1 (by decide),
    (masked_hides_userInfo "" "" "" "root:secret@host").2.2.2 (by decide)⟩

/-- The `@` is kept as the first of two characters, and shown again as the end of the user info. -/
theorem masked_at_twice : masked (masked "@") ≠ masked "@" := by decide

end Bringup.Uri
