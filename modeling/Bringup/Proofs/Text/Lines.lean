import Bringup.Text.Lines
import Mathlib.Data.List.Infix

/-!
# Texts that differ in how their lines end

`SameLines` : the two texts are one text once all their line ends are line feeds.

Around a line end such texts need not agree character by character, nor in length.  A stretch without
line ends stands in both of them (`SameLines.append`, `SameLines.infix_of_normalize`).
-/

namespace Bringup

/-- Two texts that differ at most in how their lines end. -/
def SameLines (cs ds : List Char) : Prop := normalizeNewlines cs = normalizeNewlines ds

/-- A character that ends no line. -/
def IsPlain (c : Char) : Prop := c ≠ '\r' ∧ c ≠ '\n'

instance (c : Char) : Decidable (IsPlain c) := inferInstanceAs (Decidable (_ ∧ _))

variable {c : Char} {cs ds taken rest : List Char}

/-- What holds of no line end keeps its characters apart from them. -/
theorem IsPlain.of_holds {p : Char → Prop} (h : p c) (hreturn : ¬ p '\r') (hfeed : ¬ p '\n') :
    IsPlain c := by
  constructor
  · rintro rfl
    exact hreturn h
  · rintro rfl
    exact hfeed h

theorem normalizeNewlines_cons (h : c ≠ '\r') :
    normalizeNewlines (c :: cs) = c :: normalizeNewlines cs := by
  rw [normalizeNewlines, if_neg h]
  rintro _ rfl
  exact absurd rfl h

theorem normalizeNewlines_eq_self (h : '\r' ∉ cs) : normalizeNewlines cs = cs := by
  induction cs with
  | nil => rfl
  | cons c cs ih =>
    rw [List.mem_cons, not_or] at h
    rw [normalizeNewlines_cons (Ne.symm h.1), ih h.2]

/-- The ends of the text with line feeds are the ends of the text, with line feeds. -/
theorem exists_suffix_of_suffix_normalize (h : rest <:+ normalizeNewlines cs) :
    ∃ rest', rest' <:+ cs ∧ normalizeNewlines rest' = rest := by
  fun_induction normalizeNewlines cs with
  | case1 => exact ⟨[], List.suffix_refl _, (List.suffix_nil.1 h).symm⟩
  | case2 cs ih =>
    rcases List.suffix_cons_iff.1 h with rfl | h
    · exact ⟨_, List.suffix_refl _, rfl⟩
    · obtain ⟨rest', hsuffix, heq⟩ := ih h
      exact ⟨rest', hsuffix.trans (List.suffix_append ['\r', '\n'] cs), heq⟩
  | case3 c cs hne ih =>
    rcases List.suffix_cons_iff.1 h with rfl | h
    · exact ⟨c :: cs, List.suffix_refl _, normalizeNewlines.eq_3 c cs hne⟩
    · obtain ⟨rest', hsuffix, heq⟩ := ih h
      exact ⟨rest', hsuffix.trans (List.suffix_cons c cs), heq⟩

namespace SameLines

theorem symm (h : SameLines cs ds) : SameLines ds cs := Eq.symm h

theorem normalize (cs : List Char) : SameLines (normalizeNewlines cs) cs :=
  normalizeNewlines_eq_self (normalizeNewlines_no_return cs)

theorem nil (h : SameLines [] ds) : ds = [] := by
  revert h
  unfold SameLines
  fun_cases normalizeNewlines ds with
  | case1 => exact fun _ => rfl
  | case2 => exact nofun
  | case3 => exact nofun

theorem cons (hc : IsPlain c) (h : SameLines (c :: cs) ds) : ∃ ds', ds = c :: ds' ∧ SameLines cs ds' := by
  rw [SameLines, normalizeNewlines_cons hc.1] at h
  revert h
  fun_cases normalizeNewlines ds with
  | case1 => exact nofun
  | case2 => exact fun h => absurd (List.cons.inj h).1 hc.2
  | case3 d ds _ =>
    intro h
    obtain ⟨hhead, htail⟩ := List.cons.inj h
    split at hhead
    · exact absurd hhead hc.2
    · exact ⟨ds, by rw [hhead], htail⟩

theorem ne_nil (h : SameLines cs ds) (hcs : cs ≠ []) : ds ≠ [] := by
  rintro rfl
  exact hcs h.symm.nil

/-- A stretch without line ends stands in both texts. -/
theorem append (taken : List Char) (hplain : ∀ c ∈ taken, IsPlain c)
    (h : SameLines (taken ++ rest) ds) :
    ∃ rest', ds = taken ++ rest' ∧ SameLines rest rest' := by
  induction taken generalizing ds with
  | nil => exact ⟨ds, rfl, h⟩
  | cons c taken ih =>
    obtain ⟨hc, hplain⟩ := List.forall_mem_cons.1 hplain
    obtain ⟨ds', rfl, htail⟩ := cons hc h
    obtain ⟨rest', rfl, hrest⟩ := ih hplain htail
    exact ⟨rest', rfl, hrest⟩

theorem head? (hc : IsPlain c) (h : SameLines cs ds) : cs.head? = some c ↔ ds.head? = some c := by
  have forward {cs ds : List Char} (h : SameLines cs ds) (hcs : cs.head? = some c) :
      ds.head? = some c := by
    obtain ⟨cs', rfl⟩ := List.head?_eq_some_iff.1 hcs
    obtain ⟨ds', rfl, -⟩ := cons hc h
    rfl
  exact ⟨forward h, forward h.symm⟩

/-- A stretch without line ends that stands in the text with line feeds stands in the text. -/
theorem infix_of_normalize (hplain : ∀ c ∈ taken, IsPlain c) (h : taken <:+: normalizeNewlines cs) :
    taken <:+: cs := by
  obtain ⟨ds, hprefix, hsuffix⟩ := List.infix_iff_prefix_suffix.1 h
  obtain ⟨rest, rfl⟩ := hprefix
  obtain ⟨cs', hcs', heq⟩ := exists_suffix_of_suffix_normalize hsuffix
  have hsame : SameLines (taken ++ rest) cs' := by
    rw [← heq]
    exact normalize cs'
  obtain ⟨rest', rfl, -⟩ := append taken hplain hsame
  exact (List.prefix_append taken rest').isInfix.trans hcs'.isInfix

end SameLines

end Bringup
