import Bringup.Proofs.Server.Sound

/-!
# When a reported index is the declared one

* `IndexSpec.ReportedAs` : the reported keys are the declared ones in their order, each direction a number
  that is equal to the declared one, and the flags are the declared ones;
* `Binary64.exists_truncate?`, `Value.exists_toInteger_eq` : a whole number is truncated to the one number
  that it is equal to, however it is written;
* `IndexSpec.matches?_eq_true_iff` : the comparison accepts just such an index, when the reported
  directions are whole numbers;
* `IndexSpec.exists_matches?_iff` : the comparison comes to an end just when all reported directions
  stand for whole numbers.

Without the last condition the comparison accepts more: it would take `1.5` for an ascending direction, as
it loses the fraction.
-/

namespace Bringup

/-! ### Whole numbers -/

namespace Binary64

variable {x : Binary64}

/-- A whole number is truncated to itself. -/
theorem exists_truncate? (h : x.isWhole = true) :
    ∃ n, x.truncate? = some n ∧ ∀ m, x.equalInt m = true ↔ n = m := by
  unfold isWhole at h
  cases hr : x.ratio? with
  | none =>
    rw [hr] at h
    cases h
  | some q =>
    obtain ⟨num, den⟩ := q
    simp only [hr, beq_iff_eq] at h
    have hden : 0 < den := den_pos hr
    obtain ⟨k, rfl⟩ := Nat.dvd_of_mod_eq_zero h
    have hk : den * k / den = k := Nat.mul_div_cancel_left k hden
    have hsame (m : Int) : (den * k = m.natAbs * den) ↔ k = m.natAbs := by
      rw [Nat.mul_comm m.natAbs den]
      exact Nat.mul_left_cancel_iff hden
    have hzero : den * k = 0 ↔ k = 0 := by
      rw [Nat.mul_eq_zero]
      omega
    have hequal (m : Int) : x.equalInt m = true ↔
        k = m.natAbs ∧ (x.negative = decide (m < 0) ∨ k = 0) := by
      simp only [equalInt, hr, Bool.and_eq_true, Bool.or_eq_true, beq_iff_eq, hsame, hzero]
    have htruncate : x.truncate? = some (if x.negative then -(k : Int) else k) := by
      simp only [truncate?, hr, Option.map_some, hk]
    -- the sign of the number counts unless it is a zero
    cases hneg : x.negative with
    | true =>
      refine ⟨-(k : Int), by rw [htruncate, hneg]; rfl, fun m => ?_⟩
      rw [hequal, hneg, eq_comm (a := true), decide_eq_true_iff]
      omega
    | false =>
      refine ⟨k, by rw [htruncate, hneg]; rfl, fun m => ?_⟩
      rw [hequal, hneg, eq_comm (a := false), decide_eq_false_iff_not]
      omega

end Binary64

namespace Value

/-- A whole number stands for the one number that it is equal to. -/
theorem exists_toInteger_eq {v : Value} (h : v.isWhole = true) :
    ∃ n, v.toInteger = .ok n ∧ ∀ m, v.equal (.int m) = true ↔ n = m := by
  cases v with
  | int n => exact ⟨n, rfl, fun m => beq_iff_eq⟩
  | float x =>
    obtain ⟨n, hn, hm⟩ := Binary64.exists_truncate? h
    exact ⟨n, by rw [toInteger, hn], hm⟩
  | _ => cases h

end Value

/-! ### Declared and reported indexes -/

/-- The directions of the reported key. -/
def IndexInfo.directions (info : IndexInfo) : List Value :=
  (info.key.getD []).filterMap fun
    | [_, direction] => some direction
    | _ => none

namespace IndexSpec

/-- A reported pair is a declared field, with a direction equal to the declared one. -/
def ReportsKey (pair : List Value) (key : String × Direction) : Prop :=
  ∃ direction, pair = [.str key.1, direction] ∧ direction.equal (.int key.2.number) = true

/-- A reported index has the declared keys in their order, and the declared flags; a flag that is missing
is not set. -/
structure ReportedAs (index : IndexSpec) (info : IndexInfo) : Prop where
  keys : List.Forall₂ ReportsKey (info.key.getD []) index.keys
  unique : reportedFlag info.unique = index.unique
  sparse : reportedFlag info.sparse = index.sparse

variable {index : IndexSpec} {info : IndexInfo}

theorem reportsKey_iff {v direction : Value} {n : Int} {key : String × Direction}
    (hn : ∀ m, direction.equal (.int m) = true ↔ n = m) :
    ReportsKey [v, direction] key ↔ v.equal (.str key.1) = true ∧ n = key.2.number := by
  rw [Value.equal_str_iff, ← hn]
  constructor
  · rintro ⟨_, heq, hdirection⟩
    obtain ⟨rfl, rfl⟩ : v = .str key.1 ∧ direction = _ := by simpa using heq
    exact ⟨rfl, hdirection⟩
  · rintro ⟨rfl, hdirection⟩
    exact ⟨direction, rfl, hdirection⟩

/-- Pairs with whole numbers can be read, and what is read is compared with declared keys as it must be. -/
theorem exists_reportedKeys {pairs : List (List Value)}
    (h : IndexInfo.isWhole ⟨some pairs, none, none⟩ = true) :
    ∃ reported, reportedKeys pairs = .ok reported ∧
      ∀ keys, sameKeys reported keys = true ↔ List.Forall₂ ReportsKey pairs keys := by
  induction pairs with
  | nil => exact ⟨[], rfl, fun keys => by cases keys <;> simp [sameKeys]⟩
  | cons pair pairs ih =>
    obtain ⟨hpair, hpairs⟩ := Bool.and_eq_true_iff.1 h
    obtain ⟨reported, hreported, hsame⟩ := ih hpairs
    dsimp only at hpair
    split at hpair
    · rename_i v direction
      obtain ⟨n, hn, hm⟩ := Value.exists_toInteger_eq hpair
      refine ⟨(v, n) :: reported, ?_, fun keys => ?_⟩
      · rw [reportedKeys, reportedPair, hn, hreported]
        rfl
      · cases keys with
        | nil => simp [sameKeys]
        | cons key keys =>
          rw [List.forall₂_cons, reportsKey_iff hm, ← hsame keys]
          simp only [sameKeys, Bool.and_eq_true, beq_iff_eq]
    · cases hpair

/-- The comparison accepts a reported index just when it has the declared keys and flags. -/
theorem matches?_eq_true_iff (h : info.isWhole = true) :
    index.matches? info = .ok true ↔ index.ReportedAs info := by
  have hpairs : IndexInfo.isWhole ⟨some (info.key.getD []), none, none⟩ = true := h
  obtain ⟨reported, hreported, hsame⟩ := exists_reportedKeys hpairs
  rw [matches?, hreported]
  constructor
  · intro hmatch
    have hall := Except.ok.inj hmatch
    simp only [Bool.and_eq_true, beq_iff_eq, hsame] at hall
    exact ⟨hall.1.1, hall.1.2, hall.2⟩
  · intro hreports
    refine congrArg Except.ok ?_
    simp only [Bool.and_eq_true, beq_iff_eq, hsame]
    exact ⟨⟨hreports.keys, hreports.unique⟩, hreports.sparse⟩

/-! ### A comparison that comes to an end -/

/-- Pairs can be read just when their directions stand for whole numbers. -/
theorem exists_reportedKeys_iff {pairs : List (List Value)} (h : ∀ pair ∈ pairs, pair.length = 2) :
    (∃ reported, reportedKeys pairs = .ok reported) ↔
      ∀ direction ∈ IndexInfo.directions ⟨some pairs, none, none⟩, ∃ n, direction.toInteger = .ok n := by
  induction pairs with
  | nil => exact ⟨fun _ => nofun, fun _ => ⟨[], rfl⟩⟩
  | cons pair pairs ih =>
    obtain ⟨hpair, hpairs⟩ := List.forall_mem_cons.1 h
    obtain ⟨v, direction, rfl⟩ := List.length_eq_two.1 hpair
    have hall : IndexInfo.directions ⟨some ([v, direction] :: pairs), none, none⟩ =
        direction :: IndexInfo.directions ⟨some pairs, none, none⟩ := rfl
    rw [hall, List.forall_mem_cons, ← ih hpairs, reportedKeys, reportedPair]
    cases direction.toInteger with
    | error fault =>
      constructor
      · rintro ⟨_, hr⟩
        cases hr
      · rintro ⟨⟨_, hn⟩, -⟩
        cases hn
    | ok n =>
      constructor
      · rintro ⟨reported, hr⟩
        cases hrest : reportedKeys pairs with
        | error e =>
          rw [hrest] at hr
          cases hr
        | ok rest => exact ⟨⟨n, rfl⟩, rest, rfl⟩
      · rintro ⟨-, rest, hrest⟩
        exact ⟨(v, n) :: rest, by rw [hrest]; rfl⟩

/-- The comparison with a reported index comes to an end just when all its directions stand for whole
numbers. -/
theorem exists_matches?_iff (h : ∀ pair ∈ info.key.getD [], pair.length = 2) :
    (∃ same, index.matches? info = .ok same) ↔
      ∀ direction ∈ info.directions, ∃ n, direction.toInteger = .ok n := by
  have hkeys := exists_reportedKeys_iff h
  refine Iff.trans ?_ hkeys
  rw [matches?]
  cases reportedKeys (info.key.getD []) with
  | error e =>
    constructor
    · rintro ⟨_, hr⟩
      cases hr
    · rintro ⟨_, hr⟩
      cases hr
  | ok reported => exact ⟨fun _ => ⟨_, rfl⟩, fun _ => ⟨_, rfl⟩⟩

end IndexSpec

end Bringup
