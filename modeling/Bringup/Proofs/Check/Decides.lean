import Bringup.Check.Shape
import Mathlib.Data.List.Forall2
import Mathlib.Tactic.Tauto

/-!
# What a check decides

* `Checked.Decides` : a check finds valid the one thing that is as is said, or it lists problems, and then
  there is no such thing;
* `Checked.Decides.map`, `Checked.Decides.apply`, `Checked.Decides.bind`, `Checked.Decides.refine`,
  `Checked.decides_each`, `Checked.decides_record₄` : how checks that are put together decide;
* `Spells.Items`, `Spells.Pair`, `Spells.Object`, `Spells.Required`, `Spells.Optional` : the shapes of
  values, said without the checks, and for each of them the rule for its check;
* `Checked.Ensures` : what is known of all that a check finds valid, with a rule for each way in which
  checks are put together.

So a check is described by what it accepts, and that it complains about all else need not be said again.
-/

namespace Bringup

variable {α β : Type}

namespace Checked

/-- What is found valid is the one thing that is as `P` says.  Where nothing is, there is a problem. -/
def Decides (P : α → Prop) : Checked α → Prop
  | .valid a => ∀ b, P b ↔ b = a
  | .invalid problems => problems ≠ [] ∧ ∀ b, ¬ P b

variable {P P' : α → Prop} {Q : β → Prop} {c : Checked α}

theorem decides_valid (a : α) : (valid a).Decides (· = a) := fun _ => Iff.rfl

theorem decides_problem {kind : ProblemKind} (h : ∀ a, ¬ P a) : (problem kind).Decides P :=
  ⟨List.cons_ne_nil _ _, h⟩

theorem Decides.congr (h : c.Decides P) (hiff : ∀ a, P a ↔ P' a) : c.Decides P' := by
  obtain rfl : P = P' := funext fun a => propext (hiff a)
  exact h

theorem Decides.under (h : c.Decides P) (step : PathStep) : (c.under step).Decides P := by
  cases c with
  | valid a => exact h
  | invalid problems => exact ⟨fun hnil => h.1 (List.map_eq_nil_iff.1 hnil), h.2⟩

theorem Decides.map (h : c.Decides P) (f : α → β) :
    (c.map f).Decides fun b => ∃ a, P a ∧ f a = b := by
  cases c with
  | valid a =>
    intro b
    constructor
    · rintro ⟨a', ha', rfl⟩
      rw [(h a').1 ha']
    · rintro rfl
      exact ⟨a, (h a).2 rfl, rfl⟩
  | invalid problems => exact ⟨h.1, fun b ⟨a, ha, _⟩ => h.2 a ha⟩

/-- The rule for one check after another, of what the first one has found. -/
theorem Decides.bind {f : α → Checked β} {R : α → β → Prop} (h : c.Decides P)
    (next : ∀ a, P a → (f a).Decides (R a)) : (c.bind f).Decides fun b => ∃ a, P a ∧ R a b := by
  cases c with
  | valid a =>
    refine (next a ((h a).2 rfl)).congr fun b => ?_
    constructor
    · intro hb
      exact ⟨a, (h a).2 rfl, hb⟩
    · rintro ⟨a', ha', hb⟩
      rwa [(h a').1 ha'] at hb
  | invalid problems => exact ⟨h.1, fun b ⟨a, ha, _⟩ => h.2 a ha⟩

/-- The rule for two checks side by side. -/
theorem Decides.apply {f : Checked (α → β)} {R : (α → β) → Prop} (hf : f.Decides R)
    (h : c.Decides P) : (f.apply c).Decides fun b => ∃ g, R g ∧ ∃ a, P a ∧ g a = b := by
  cases f with
  | valid g =>
    have happly : Checked.apply (.valid g) c = c.map g := by cases c <;> rfl
    rw [happly]
    refine (h.map g).congr fun b => ?_
    constructor
    · intro hb
      exact ⟨g, (hf g).2 rfl, hb⟩
    · rintro ⟨g', hg', hb⟩
      rwa [(hf g').1 hg'] at hb
  | invalid problems =>
    have hnone : ∀ b, ¬ ∃ g, R g ∧ ∃ a, P a ∧ g a = b := fun b ⟨g, hg, _⟩ => hf.2 g hg
    cases c with
    | valid a => exact ⟨hf.1, hnone⟩
    | invalid more => exact ⟨fun hnil => hf.1 (List.append_eq_nil_iff.1 hnil).1, hnone⟩

/-- The rule for a record of two parts. -/
theorem decides_record₂ {α₁ α₂ : Type} {P₁ : α₁ → Prop} {P₂ : α₂ → Prop} {c₁ : Checked α₁}
    {c₂ : Checked α₂} (h₁ : c₁.Decides P₁) (h₂ : c₂.Decides P₂) (mk : α₁ → α₂ → β) :
    (mk <$> c₁ <*> c₂).Decides fun b => ∃ a₁ a₂, P₁ a₁ ∧ P₂ a₂ ∧ mk a₁ a₂ = b := by
  refine ((h₁.map mk).apply h₂).congr fun b => ?_
  constructor
  · rintro ⟨_, ⟨a₁, ha₁, rfl⟩, a₂, ha₂, rfl⟩
    exact ⟨a₁, a₂, ha₁, ha₂, rfl⟩
  · rintro ⟨a₁, a₂, ha₁, ha₂, rfl⟩
    exact ⟨_, ⟨a₁, ha₁, rfl⟩, a₂, ha₂, rfl⟩

/-- The rule for a record of four parts. -/
theorem decides_record₄ {α₁ α₂ α₃ α₄ : Type} {P₁ : α₁ → Prop} {P₂ : α₂ → Prop} {P₃ : α₃ → Prop}
    {P₄ : α₄ → Prop} {c₁ : Checked α₁} {c₂ : Checked α₂} {c₃ : Checked α₃} {c₄ : Checked α₄}
    (h₁ : c₁.Decides P₁) (h₂ : c₂.Decides P₂) (h₃ : c₃.Decides P₃) (h₄ : c₄.Decides P₄)
    (mk : α₁ → α₂ → α₃ → α₄ → β) :
    (mk <$> c₁ <*> c₂ <*> c₃ <*> c₄).Decides fun b =>
      ∃ a₁ a₂ a₃ a₄, P₁ a₁ ∧ P₂ a₂ ∧ P₃ a₃ ∧ P₄ a₄ ∧ mk a₁ a₂ a₃ a₄ = b := by
  refine (((decides_record₂ h₁ h₂ mk).apply h₃).apply h₄).congr fun b => ?_
  constructor
  · rintro ⟨_, ⟨_, ⟨a₁, a₂, ha₁, ha₂, rfl⟩, a₃, ha₃, rfl⟩, a₄, ha₄, rfl⟩
    exact ⟨a₁, a₂, a₃, a₄, ha₁, ha₂, ha₃, ha₄, rfl⟩
  · rintro ⟨a₁, a₂, a₃, a₄, ha₁, ha₂, ha₃, ha₄, rfl⟩
    exact ⟨_, ⟨_, ⟨a₁, a₂, ha₁, ha₂, rfl⟩, a₃, ha₃, rfl⟩, a₄, ha₄, rfl⟩

/-- The rule for a further condition. -/
theorem Decides.refine {fault? : α → Option String} (h : c.Decides P)
    (hfault : ∀ a, P a → (fault? a = none ↔ P' a)) :
    (c.refine fault?).Decides fun a => P a ∧ P' a := by
  have hcheck : ∀ a, P a → ((valid a).refine fault?).Decides fun b => b = a ∧ P' a := by
    intro a ha
    simp only [Checked.refine, Checked.bind]
    cases hf : fault? a with
    | none => exact (decides_valid a).congr fun b => (and_iff_left ((hfault a ha).1 hf)).symm
    | some reason =>
      refine decides_problem fun b hb => ?_
      rw [(hfault a ha).2 hb.2] at hf
      cases hf
  refine (h.bind hcheck).congr fun b => ?_
  constructor
  · rintro ⟨a, ha, rfl, hb⟩
    exact ⟨ha, hb⟩
  · rintro ⟨ha, hb⟩
    exact ⟨b, ha, rfl, hb⟩

/-- The rule for the items of a list. -/
theorem decides_each {check : β → Checked α} {R : β → α → Prop}
    (h : ∀ b, (check b).Decides (R b)) (items : List β) :
    (each check items).Decides (List.Forall₂ R items) := by
  suffices hfrom : ∀ index, (eachFrom check index items).Decides (List.Forall₂ R items) from hfrom 0
  induction items with
  | nil => exact fun _ => (decides_valid []).congr fun as => List.forall₂_nil_left_iff.symm
  | cons b items ih =>
    intro index
    refine ((((h b).under (.item index)).map List.cons).apply (ih (index + 1))).congr fun as => ?_
    rw [List.forall₂_cons_left_iff]
    constructor
    · rintro ⟨_, ⟨a, ha, rfl⟩, rest, hrest, rfl⟩
      exact ⟨a, rest, ha, hrest, rfl⟩
    · rintro ⟨a, rest, ha, hrest, rfl⟩
      exact ⟨_, ⟨a, ha, rfl⟩, rest, hrest, rfl⟩

/-- A check that decides leads to what is as is said, or to a complaint with a problem in it. -/
theorem Decides.toExcept (h : c.Decides P) (model : String) :
    (∀ a, c.toExcept model = .ok a ↔ P a) ∧
      ((¬ ∃ a, P a) → ∃ problems, problems ≠ [] ∧ c.toExcept model = .error ⟨model, problems⟩) := by
  cases c with
  | valid a =>
    refine ⟨fun b => ?_, fun hnone => absurd ⟨a, (h a).2 rfl⟩ hnone⟩
    rw [h b, Checked.toExcept]
    exact ⟨fun heq => (Except.ok.inj heq).symm, fun heq => by rw [heq]⟩
  | invalid problems =>
    exact ⟨fun b => ⟨nofun, fun hb => (h.2 b hb).elim⟩, fun _ => ⟨problems, h.1, rfl⟩⟩

end Checked

/-! ### Shapes of values -/

namespace Spells

/-- A list, whose items spell the values one by one. -/
def Items (R : Value → α → Prop) (v : Value) (as : List α) : Prop :=
  ∃ items, v = .list items ∧ List.Forall₂ R items as

/-- A list of two items, each of which spells its part. -/
def Pair (R : Value → α → Prop) (S : Value → β → Prop) (v : Value) (p : α × β) : Prop :=
  ∃ first second, v = .list [first, second] ∧ R first p.1 ∧ S second p.2

/-- A document whose fields are as `P` says. -/
def Object (P : Fields → Prop) (v : Value) : Prop := ∃ fields, v = .doc fields ∧ P fields

/-- The field is there, and its value is as `P` says. -/
def Required (name : String) (fields : Fields) (P : Value → Prop) : Prop :=
  ∃ v, fields.lookup name = some v ∧ P v

/-- The field is there, and its value is as `P` says; or it is not there, and `absent` holds. -/
def Optional (name : String) (fields : Fields) (absent : Prop) (P : Value → Prop) : Prop :=
  match fields.lookup name with
  | some v => P v
  | none => absent

/-! ### Conditions on what is spelled -/

variable {name : String} {fields : Fields} {absent p : Prop} {P : Value → Prop}

theorem required_and : Required name fields (fun v => P v ∧ p) ↔ Required name fields P ∧ p := by
  constructor
  · rintro ⟨v, hv, hP, hp⟩
    exact ⟨⟨v, hv, hP⟩, hp⟩
  · rintro ⟨⟨v, hv, hP⟩, hp⟩
    exact ⟨v, hv, hP, hp⟩

/-- The condition must hold of the value that stands for a missing field, too. -/
theorem optional_and (h : absent → p) :
    Optional name fields absent (fun v => P v ∧ p) ↔ Optional name fields absent P ∧ p := by
  unfold Optional
  split
  · exact Iff.rfl
  · exact (and_iff_left_of_imp h).symm

theorem items_and {R : Value → α → Prop} {V : α → Prop} {v : Value} {as : List α} :
    Items (fun v a => R v a ∧ V a) v as ↔ Items R v as ∧ ∀ a ∈ as, V a := by
  have hsplit : ∀ items : List Value, List.Forall₂ (fun v a => R v a ∧ V a) items as ↔
      List.Forall₂ R items as ∧ ∀ a ∈ as, V a := by
    intro items
    induction items generalizing as with
    | nil =>
      rw [List.forall₂_nil_left_iff, List.forall₂_nil_left_iff]
      exact ⟨fun has => ⟨has, has ▸ nofun⟩, And.left⟩
    | cons v items ih =>
      cases as with
      | nil => exact ⟨nofun, nofun⟩
      | cons a as =>
        rw [List.forall₂_cons, List.forall₂_cons, ih, List.forall_mem_cons]
        tauto
  simp only [Items, hsplit]
  constructor
  · rintro ⟨items, rfl, hR, hV⟩
    exact ⟨⟨items, rfl, hR⟩, hV⟩
  · rintro ⟨⟨items, rfl, hR⟩, hV⟩
    exact ⟨items, rfl, hR, hV⟩

end Spells

namespace Check

variable {R : Value → α → Prop} {S : Value → β → Prop}

theorem decides_list {check : Value → Checked α} (h : ∀ v, (check v).Decides (R v)) (v : Value) :
    (list check v).Decides (Spells.Items R v) := by
  cases v with
  | list items =>
    refine (Checked.decides_each h items).congr fun as => ?_
    constructor
    · intro has
      exact ⟨items, rfl, has⟩
    · rintro ⟨_, heq, has⟩
      rwa [Value.list.inj heq]
  | _ => exact Checked.decides_problem fun as ⟨_, heq, _⟩ => by cases heq

/-- An item that must be there. -/
theorem decides_pairItem {check : Value → Checked α} (h : ∀ v, (check v).Decides (R v)) (index : Nat)
    (items : List Value) :
    (pairItem check index items).Decides fun a => ∃ v, items[index]? = some v ∧ R v a := by
  unfold pairItem
  refine Checked.Decides.under ?_ _
  cases items[index]? with
  | some v => exact (h v).congr fun a => by simp
  | none => exact Checked.decides_problem (by simp)

theorem decides_pair {first : Value → Checked α} {second : Value → Checked β}
    (hfirst : ∀ v, (first v).Decides (R v)) (hsecond : ∀ v, (second v).Decides (S v)) (v : Value) :
    (pair first second v).Decides (Spells.Pair R S v) := by
  cases v with
  | list items =>
    by_cases hlong : 2 < items.length
    · rw [pair, if_pos hlong]
      refine Checked.decides_problem fun p hp => ?_
      obtain ⟨_, _, heq, -⟩ := hp
      rw [Value.list.inj heq] at hlong
      simp at hlong
    · rw [pair, if_neg hlong]
      refine (((decides_pairItem hfirst 0 items).map Prod.mk).apply
        (decides_pairItem hsecond 1 items)).congr fun p => ?_
      constructor
      · rintro ⟨_, ⟨a, ⟨u, hu, ha⟩, rfl⟩, b, ⟨w, hw, hb⟩, rfl⟩
        refine ⟨u, w, congrArg Value.list ?_, ha, hb⟩
        match items, hu, hw, hlong with
        | [_, _], hu, hw, _ => simp_all
        | _ :: _ :: _ :: _, _, _, hlong => simp at hlong
      · rintro ⟨u, w, heq, ha, hb⟩
        rw [Value.list.inj heq]
        exact ⟨_, ⟨p.1, ⟨u, rfl, ha⟩, rfl⟩, p.2, ⟨w, rfl, hb⟩, rfl⟩
  | _ => exact Checked.decides_problem fun p ⟨_, _, heq, _⟩ => by cases heq

theorem decides_model {model : String} {check : Fields → Checked α} {P : α → Fields → Prop}
    (h : ∀ fields, (check fields).Decides (P · fields)) (v : Value) :
    (Check.model model check v).Decides fun a => Spells.Object (P a) v := by
  cases v with
  | doc fields =>
    refine (h fields).congr fun a => ?_
    constructor
    · intro ha
      exact ⟨fields, rfl, ha⟩
    · rintro ⟨_, heq, ha⟩
      rwa [Value.doc.inj heq]
  | _ => exact Checked.decides_problem fun a ⟨_, heq, _⟩ => by cases heq

theorem decides_required {check : Value → Checked α} (h : ∀ v, (check v).Decides (R v))
    (name : String) (fields : Fields) :
    (required name check fields).Decides fun a => Spells.Required name fields (R · a) := by
  unfold required Spells.Required
  refine Checked.Decides.under ?_ _
  cases fields.lookup name with
  | some v => exact (h v).congr fun a => by simp
  | none => exact Checked.decides_problem (by simp)

theorem decides_optional {check : Value → Checked α} (h : ∀ v, (check v).Decides (R v))
    (name : String) (absent : α) (fields : Fields) :
    (Check.optional name absent check fields).Decides fun a =>
      Spells.Optional name fields (a = absent) (R · a) := by
  unfold Check.optional Spells.Optional
  cases fields.lookup name with
  | some v => exact (h v).under _
  | none => exact Checked.decides_valid absent

end Check

/-! ### What a check ensures -/

namespace Checked

/-- Whatever is found valid is as `P` says. -/
def Ensures (P : α → Prop) : Checked α → Prop
  | .valid a => P a
  | .invalid _ => True

variable {P : α → Prop} {Q : β → Prop} {c : Checked α}

theorem ensures_iff : c.Ensures P ↔ ∀ a, c = .valid a → P a := by
  cases c with
  | valid a =>
    constructor
    · rintro h _ ⟨⟩
      exact h
    · intro h
      exact h a rfl
  | invalid problems => exact iff_of_true trivial nofun

theorem ensures_any : c.Ensures fun _ => True := ensures_iff.2 fun _ _ => trivial

theorem Decides.ensures (h : c.Decides P) : c.Ensures P := by
  cases c with
  | valid a => exact (h a).2 rfl
  | invalid problems => trivial

theorem Ensures.mono {P' : α → Prop} (h : c.Ensures P) (hP : ∀ a, P a → P' a) : c.Ensures P' :=
  ensures_iff.2 fun a ha => hP a (ensures_iff.1 h a ha)

theorem Ensures.under {step : PathStep} (h : c.Ensures P) : (c.under step).Ensures P := by
  cases c with
  | valid a => exact h
  | invalid problems => trivial

theorem Ensures.map {f : α → β} (h : c.Ensures fun a => Q (f a)) : (c.map f).Ensures Q := by
  cases c with
  | valid a => exact h
  | invalid problems => trivial

theorem Ensures.bind {f : α → Checked β} (h : c.Ensures P) (next : ∀ a, P a → (f a).Ensures Q) :
    (c.bind f).Ensures Q := by
  cases c with
  | valid a => exact next a h
  | invalid problems => trivial

/-- The rule for one more field of a record, which is as `P` says. -/
theorem Ensures.apply {f : Checked (α → β)} (hf : f.Ensures fun g => ∀ a, P a → Q (g a))
    (h : c.Ensures P) : (f.apply c).Ensures Q := by
  cases f with
  | valid g =>
    cases c with
    | valid a => exact hf a h
    | invalid problems => trivial
  | invalid problems => cases c <;> trivial

end Checked

namespace Check

variable {P : α → Prop} {check : Value → Checked α} {name : String} {absent : α} {given : Fields}

/-- The value that stands for a missing field must be as `P` says, too. -/
theorem ensures_optional (habsent : P absent) (h : ∀ v, (check v).Ensures P) :
    (Check.optional name absent check given).Ensures P := by
  unfold Check.optional
  cases given.lookup name with
  | some v => exact (h v).under
  | none => exact habsent

theorem ensures_atLeast {least n : Int} : (atLeast least n).Ensures (least ≤ ·) := by
  unfold atLeast
  split
  · trivial
  · exact Int.not_lt.1 ‹_›

theorem ensures_atMost {P : Int → Prop} {greatest n : Int} (h : P n) :
    (atMost greatest n).Ensures fun m => P m ∧ m ≤ greatest := by
  unfold atMost
  split
  · trivial
  · exact ⟨h, Int.not_lt.1 ‹_›⟩

end Check

end Bringup
