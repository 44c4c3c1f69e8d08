import Bringup.Proofs.Provision.RoleDocument
import Bringup.Proofs.Spec.Grammar

/-!
# The normal form of permissions

* `RoleSeed.distinctPermissions_eq` : permissions of which none is blank lose their later repetitions, and a
  blank one has them all refused;
* `RoleSeed.Repeats` : a list with entries of another one repeated behind their places;
* `RoleSeed.distinctPermissions_normal` : the normal form has each entry once, in the order of the first
  occurrences, and is its own normal form.  So a role that is declared with repetitions is the same role, and it
  takes what was written for the role for up to date.

The order of the first occurrences is said by places: `List.idxOf` gives the first place of an entry.
-/

namespace Bringup

/-- Nothing is left of a text without the characters of a class at its ends just when it has no others. -/
theorem trimList_eq_nil_iff {p : Char → Bool} {cs : List Char} :
    trimList p cs = [] ↔ ∀ c ∈ cs, p c = true := by
  constructor
  · intro hnil
    obtain ⟨before, after, hcs, hbefore, hafter⟩ := exists_trimList p cs
    rw [hcs, hnil, List.append_nil]
    exact List.forall_mem_append.2 ⟨hbefore, hafter⟩
  · intro hall
    rw [trimList, List.dropWhile_eq_nil_iff.2 hall]
    rfl

theorem isBlankText_iff_trimList {s : String} : isBlankText s = true ↔ trimList isBlank s.toList = [] :=
  isBlankText_eq_true_iff.trans trimList_eq_nil_iff.symm

namespace RoleSeed

variable {ps qs seen : List String} {p q : String} {problems : List Problem}

/-! ### The first occurrences -/

/-- A filter keeps the order of the first places of what it lets through. -/
theorem idxOf_filter_lt_iff {keep : String → Bool} (hp : keep p = true) (hq : keep q = true) :
    (ps.filter keep).idxOf p < (ps.filter keep).idxOf q ↔ ps.idxOf p < ps.idxOf q := by
  induction ps with
  | nil => rfl
  | cons a rest ih =>
    by_cases hap : a = p
    · subst hap
      rw [List.filter_cons_of_pos hp]
      by_cases haq : a = q
      · simp [haq]
      · simp [List.idxOf_cons_ne _ haq]
    by_cases haq : a = q
    · subst haq
      rw [List.filter_cons_of_pos hq]
      simp
    rw [List.idxOf_cons_ne _ hap, List.idxOf_cons_ne _ haq, Nat.succ_lt_succ_iff, ← ih]
    by_cases ha : keep a = true
    · rw [List.filter_cons_of_pos ha, List.idxOf_cons_ne _ hap, List.idxOf_cons_ne _ haq,
        Nat.succ_lt_succ_iff]
    · rw [List.filter_cons_of_neg ha]

/-- Without later repetitions the first places are in the same order. -/
theorem idxOf_eraseDups_lt_iff (p q : String) : ∀ ps : List String,
    ps.eraseDups.idxOf p < ps.eraseDups.idxOf q ↔ ps.idxOf p < ps.idxOf q
  | [] => by simp
  | a :: rest => by
    have hshorter : (rest.filter fun b => !b == a).length < rest.length + 1 :=
      Nat.lt_succ_of_le (List.length_filter_le _ _)
    rw [List.eraseDups_cons]
    by_cases hap : a = p
    · subst hap
      by_cases haq : a = q
      · simp [haq]
      · simp [List.idxOf_cons_ne _ haq]
    by_cases haq : a = q
    · subst haq
      simp
    simp only [List.idxOf_cons_ne _ hap, List.idxOf_cons_ne _ haq, Nat.succ_lt_succ_iff]
    rw [idxOf_eraseDups_lt_iff p q (rest.filter fun b => !b == a)]
    exact idxOf_filter_lt_iff (by simpa using Ne.symm hap) (by simpa using Ne.symm haq)
termination_by ps => ps.length

/-- What comes once each has no later repetitions to lose. -/
theorem eraseDups_of_nodup (h : ps.Nodup) : ps.eraseDups = ps := by
  induction ps with
  | nil => rfl
  | cons a rest ih =>
    obtain ⟨hnew, hrest⟩ := List.nodup_cons.1 h
    have hkept : rest.filter (fun b => !b == a) = rest := by
      refine List.filter_eq_self.2 fun b hb => ?_
      have hne : b ≠ a := ne_of_mem_of_not_mem hb hnew
      simpa using hne
    rw [List.eraseDups_cons, hkept, ih hrest]

/-! ### Blank permissions -/

/-- What is said of a blank permission. -/
def blankPermission : ProblemKind := .refused "Permission entries must not be empty"

/-- There is one reason to refuse permissions. -/
theorem problems_of_distinctFrom (h : distinctFrom seen ps = .invalid problems) :
    problems = [⟨[], blankPermission⟩] := by
  fun_induction distinctFrom seen ps with
  | case1 => cases h
  | case2 => exact (Checked.invalid.inj h).symm
  | case3 seen p rest hblank hseen ih => exact ih h
  | case4 seen p rest hblank hseen ih =>
    cases hrest : distinctFrom (p :: seen) rest with
    | valid distinct =>
      rw [hrest] at h
      cases h
    | invalid others =>
      rw [hrest] at h
      exact ih (hrest.trans (congrArg _ (Checked.invalid.inj h)))

/-- Permissions of which none is blank lose their later repetitions; else they are refused. -/
theorem distinctPermissions_eq (ps : List String) : distinctPermissions ps =
    if ∃ p ∈ ps, isBlankText p = true then .problem blankPermission else .valid ps.eraseDups := by
  have hdecides := decides_distinctFrom [] ps
  have hall : ps.filter (· ∉ ([] : List String)) = ps := by simp
  rw [hall] at hdecides
  cases hps : distinctFrom [] ps with
  | valid distinct =>
    rw [hps] at hdecides
    obtain ⟨heq, hfilled⟩ := (hdecides distinct).2 rfl
    rw [distinctPermissions, hps, heq, if_neg]
    rintro ⟨p, hp, hblank⟩
    rw [hfilled p hp] at hblank
    cases hblank
  | invalid problems =>
    rw [hps] at hdecides
    rw [distinctPermissions, hps, problems_of_distinctFrom hps, if_pos]
    · rfl
    · by_contra hnone
      refine hdecides.2 ps.eraseDups ⟨rfl, fun p hp => ?_⟩
      exact Bool.eq_false_iff.2 fun hblank => hnone ⟨p, hp, hblank⟩

/-! ### Repeated declarations -/

/-- The list has entries of `ps` repeated behind their places, and is otherwise `ps`. -/
inductive Repeats (ps : List String) : List String → Prop
  | refl : Repeats ps ps
  | again {before after : List String} {p : String} : Repeats ps (before ++ after) → p ∈ before →
      Repeats ps (before ++ p :: after)

/-- Repetitions are lost again. -/
theorem Repeats.eraseDups_eq (h : Repeats ps qs) : qs.eraseDups = ps.eraseDups := by
  induction h with
  | refl => rfl
  | again _ hp ih =>
    rw [← ih, List.eraseDups_append, List.eraseDups_append, List.cons_removeAll]
    simp [hp]

theorem Repeats.distinctPermissions_eq (h : Repeats ps qs) :
    distinctPermissions qs = distinctPermissions ps := by
  have hmem (p : String) : p ∈ qs ↔ p ∈ ps := by
    rw [← List.mem_eraseDups, h.eraseDups_eq, List.mem_eraseDups]
  simp only [RoleSeed.distinctPermissions_eq, hmem, h.eraseDups_eq]

/-- The fields of a declaration with these permissions. -/
def declared (fields : Fields) (permissions : List String) : Value :=
  .doc (Assoc.put "permissions" (.texts permissions) fields)

theorem list_texts (texts : List String) : Check.list Check.text (.texts texts) = .valid texts := by
  have heach : ∀ (texts : List String) (index : Nat),
      Checked.eachFrom Check.text index (texts.map .str) = .valid texts := by
    intro texts
    induction texts with
    | nil => exact fun _ => rfl
    | cons s rest ih =>
      intro index
      rw [List.map_cons, Checked.eachFrom, ih]
      rfl
  exact heach texts 0

/-- A declaration is checked with the normal form of its permissions. -/
theorem check_declared_congr {fields : Fields} (h : distinctPermissions qs = distinctPermissions ps) :
    check (declared fields qs) = check (declared fields ps) := by
  have hother (permissions : List String) {name : String} (hname : name ≠ "permissions") :
      (Assoc.put "permissions" (.texts permissions) fields).lookup name = fields.lookup name :=
    Assoc.lookup_put_of_ne hname
  simp only [check, Check.model, declared, Check.required, Check.optional, Assoc.lookup_put_self,
    hother _ (by decide : "code" ≠ "permissions"), hother _ (by decide : "name" ≠ "permissions"),
    hother _ (by decide : "description" ≠ "permissions"), list_texts, Checked.bind, h]

/-- What is written for a role is as the role has it. -/
theorem not_differs_document (r : RoleSeed) (now : Instant) : r.differs (r.document now) = false := by
  rw [differs_eq_false_iff]
  simp [document, content, List.lookup_cons]

theorem not_differs_content (r : RoleSeed) : r.differs r.content = false := by
  rw [differs_eq_false_iff]
  simp [content, List.lookup_cons]

/-- **The normal form of permissions.**  Permissions are refused just when one of them is blank.  Else their
normal form has each of them once, in the order of the first occurrences, and is its own normal form.  So a
role that is declared with repetitions is the same role, and what was written for it does not differ from
it. -/
theorem distinctPermissions_normal (ps : List String) :
    (distinctPermissions ps = .problem blankPermission ↔ ∃ p ∈ ps, trimList isBlank p.toList = []) ∧
      ((∀ p ∈ ps, trimList isBlank p.toList ≠ []) → ∃ distinct,
        distinctPermissions ps = .valid distinct ∧ distinct.Nodup ∧ (∀ p, p ∈ distinct ↔ p ∈ ps) ∧
          (∀ p ∈ ps, ∀ q ∈ ps, distinct.idxOf p < distinct.idxOf q ↔ ps.idxOf p < ps.idxOf q) ∧
          distinctPermissions distinct = .valid distinct) ∧
      ∀ (again : List String) (fields : Fields) (r : RoleSeed) (now : Instant), Repeats ps again →
        check (declared fields ps) = .valid r → check (declared fields again) = .valid r ∧
          r.differs (r.document now) = false ∧ r.differs r.content = false := by
  simp only [ne_eq, ← isBlankText_iff_trimList]
  refine ⟨?_, fun hfilled => ?_, fun again fields r now hagain hr => ?_⟩
  · rw [distinctPermissions_eq]
    split_ifs with hblank
    · exact iff_of_true rfl hblank
    · exact iff_of_false nofun hblank
  · have hnone : ¬∃ p ∈ ps, isBlankText p = true := fun ⟨p, hp, hblank⟩ => hfilled p hp hblank
    have hnone' : ¬∃ p ∈ ps.eraseDups, isBlankText p = true := by
      simpa only [List.mem_eraseDups] using hnone
    have hnodup := nodup_eraseDups ps
    refine ⟨ps.eraseDups, ?_, hnodup, fun p => List.mem_eraseDups,
      fun p _ q _ => idxOf_eraseDups_lt_iff p q ps, ?_⟩
    · rw [distinctPermissions_eq, if_neg hnone]
    · rw [distinctPermissions_eq, if_neg hnone', eraseDups_of_nodup hnodup]
  · exact ⟨(check_declared_congr hagain.distinctPermissions_eq).trans hr, r.not_differs_document now,
      r.not_differs_content⟩

/-- A role declared with permissions to read, to write and to read again. -/
theorem distinctPermissions_normal_repeated :
    (∀ p ∈ ["read", "write", "read"], trimList isBlank p.toList ≠ []) ∧
      (∃ distinct, distinctPermissions ["read", "write", "read"] = .valid distinct ∧ distinct.Nodup ∧
        distinctPermissions distinct = .valid distinct) ∧
      Repeats ["read", "write"] ["read", "write", "read"] ∧
      check (declared [("code", .str "user"), ("name", .str "User")] ["read", "write"]) =
        .valid ⟨"user", "User", "", ["read", "write"]⟩ ∧
      check (declared [("code", .str "user"), ("name", .str "User")] ["read", "write", "read"]) =
        .valid ⟨"user", "User", "", ["read", "write"]⟩ := by
  have hfilled : ∀ p ∈ ["read", "write", "read"], trimList isBlank p.toList ≠ [] := by decide +kernel
  have hagain : Repeats ["read", "write"] (["read", "write"] ++ "read" :: []) := .again .refl (by simp)
  have hdeclared : check (declared [("code", .str "user"), ("name", .str "User")] ["read", "write"]) =
      .valid ⟨"user", "User", "", ["read", "write"]⟩ := by decide +kernel
  obtain ⟨-, hnormal, -⟩ := distinctPermissions_normal ["read", "write", "read"]
  obtain ⟨distinct, hvalid, hnodup, -, -, hfixed⟩ := hnormal hfilled
  obtain ⟨-, -, hsame⟩ := distinctPermissions_normal ["read", "write"]
  obtain ⟨hrepeated, -⟩ := hsame _ _ _ ⟨0, some 0⟩ hagain hdeclared
  exact ⟨hfilled, ⟨distinct, hvalid, hnodup, hfixed⟩, hagain, hdeclared, hrepeated⟩

end RoleSeed

end Bringup
