import Bringup.Value.Basic

/-!
# Equality of values

* `Value.equal` : booleans, whole and floating-point numbers are compared as numbers, documents
  without regard to the order of their fields, instants as points of time;
* `Value.equal_str_iff`, `Value.equal_texts_iff` : a text, or a list of texts, is equal to itself only.
-/

namespace Bringup

/-- A number that a value stands for. -/
inductive Numeric where
  | whole (n : Int)
  | real (x : Binary64)

/-- Equality of numbers. -/
def Numeric.equal : Numeric → Numeric → Bool
  | .whole m, .whole n => m == n
  | .whole m, .real y => y.equalInt m
  | .real x, .whole n => x.equalInt n
  | .real x, .real y => x.equal y

namespace Value

/-- The number that a value stands for: true is one and false is zero. -/
def numeric? : Value → Option Numeric
  | .bool b => some (.whole (if b then 1 else 0))
  | .int n => some (.whole n)
  | .float x => some (.real x)
  | _ => none

mutual

/-- Equality of values. -/
def equal : Value → Value → Bool
  | .null, .null => true
  | .str s, .str t => s == t
  | .date t, .date u => t.same u
  | .list xs, .list ys => equalItems xs ys
  | .doc xs, .doc ys => xs.length == ys.length && equalFields xs ys
  | v, w =>
    match v.numeric?, w.numeric? with
    | some m, some n => m.equal n
    | _, _ => false

/-- Equality item by item. -/
def equalItems : List Value → List Value → Bool
  | [], [] => true
  | v :: vs, w :: ws => equal v w && equalItems vs ws
  | _, _ => false

/-- Whether each field of the first document is in the second with an equal value. -/
def equalFields : List (String × Value) → List (String × Value) → Bool
  | [], _ => true
  | (k, v) :: rest, others =>
    (match others.lookup k with
      | some w => equal v w
      | none => false) && equalFields rest others

end

theorem equal_str_iff {v : Value} {s : String} : v.equal (.str s) = true ↔ v = .str s := by
  cases v <;> simp [equal, numeric?]

theorem equalItems_texts_iff {vs : List Value} {ss : List String} :
    equalItems vs (ss.map .str) = true ↔ vs = ss.map .str := by
  induction vs generalizing ss with
  | nil => cases ss <;> simp [equalItems]
  | cons v vs ih => cases ss <;> simp [equalItems, equal_str_iff, ih]

theorem equal_texts_iff {v : Value} {ss : List String} :
    v.equal (texts ss) = true ↔ v = texts ss := by
  cases v <;> simp [equal, numeric?, texts, equalItems_texts_iff]

end Value

end Bringup
