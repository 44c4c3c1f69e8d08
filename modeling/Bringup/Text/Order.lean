/-!
# Texts in order

* `sortTexts` : texts in the order of their code points; equal texts are all kept.
-/

namespace Bringup

/-- Puts a text in front of the first that is not less. -/
def insertText (s : String) : List String → List String
  | [] => [s]
  | t :: rest => if t < s then t :: insertText s rest else s :: t :: rest

/-- The texts in order. -/
def sortTexts : List String → List String
  | [] => []
  | s :: rest => insertText s (sortTexts rest)

theorem insertText_perm (s : String) (texts : List String) :
    (insertText s texts).Perm (s :: texts) := by
  induction texts with
  | nil => exact .refl _
  | cons t rest ih =>
    unfold insertText
    split
    · exact (ih.cons t).trans (.swap s t rest)
    · exact .refl _

theorem sortTexts_perm (texts : List String) : (sortTexts texts).Perm texts := by
  induction texts with
  | nil => exact .refl _
  | cons s rest ih => exact (insertText_perm s _).trans (ih.cons s)

/-- A text that is put among texts in order comes before the greater ones and after the others. -/
theorem pairwise_insertText {s : String} {texts : List String} (h : texts.Pairwise (· ≤ ·)) :
    (insertText s texts).Pairwise (· ≤ ·) := by
  induction texts with
  | nil => simp [insertText]
  | cons t rest ih =>
    obtain ⟨hleast, hrest⟩ := List.pairwise_cons.1 h
    unfold insertText
    split
    · rename_i hlt
      refine List.pairwise_cons.2 ⟨fun u hu => ?_, ih hrest⟩
      rcases List.mem_cons.1 ((insertText_perm s rest).mem_iff.1 hu) with rfl | hu
      · exact String.not_lt.1 (String.lt_asymm hlt)
      · exact hleast u hu
    · rename_i hge
      have hst : s ≤ t := String.not_lt.1 hge
      refine List.pairwise_cons.2 ⟨fun u hu => ?_, h⟩
      rcases List.mem_cons.1 hu with rfl | hu
      · exact hst
      · exact String.le_trans hst (hleast u hu)

theorem pairwise_sortTexts (texts : List String) : (sortTexts texts).Pairwise (· ≤ ·) := by
  induction texts with
  | nil => exact .nil
  | cons s rest ih => exact pairwise_insertText ih

end Bringup
