import Bringup.Association
import Bringup.Number.Binary64
import Bringup.Time.Instant

/-!
# Values

* `Value` : what documents, arguments and parsed texts are made of;
* `Fields` : the fields of a document, in order;
* `Value.isTruthy` : neither empty nor zero nor null;
* `Value.kindName` : the name of a value's type in messages;
* `Value.identical_iff` : it is decidable whether two values are the same.
-/

namespace Bringup

/-- A value of a document, of an argument or of a parsed text. -/
inductive Value where
  | null
  | bool (b : Bool)
  | int (n : Int)
  | float (x : Binary64)
  | str (s : String)
  | date (t : Instant)
  | list (items : List Value)
  | doc (fields : List (String × Value))

/-- The fields of a document, in order. -/
abbrev Fields := Assoc Value

instance : Inhabited Value := ⟨.null⟩

namespace Value

/-- A list of texts. -/
def texts (ss : List String) : Value := .list (ss.map .str)

/-- Neither empty nor zero nor null. -/
def isTruthy : Value → Bool
  | .null => false
  | .bool b => b
  | .int n => n != 0
  | .float x => x.magnitude != 0
  | .str s => !s.isEmpty
  | .date _ => true
  | .list items => !items.isEmpty
  | .doc fields => !fields.isEmpty

/-- The name of a value's type in messages. -/
def kindName : Value → String
  | .null => "NoneType"
  | .bool _ => "bool"
  | .int _ => "int"
  | .float _ => "float"
  | .str _ => "str"
  | .date _ => "datetime.datetime"
  | .list _ => "list"
  | .doc _ => "dict"

mutual

/-- Whether two values are spelled alike. -/
def identical : Value → Value → Bool
  | .null, .null => true
  | .bool b, .bool c => b == c
  | .int m, .int n => m == n
  | .float x, .float y => x == y
  | .str s, .str t => s == t
  | .date t, .date u => t == u
  | .list xs, .list ys => identicalItems xs ys
  | .doc xs, .doc ys => identicalFields xs ys
  | _, _ => false

/-- Whether two lists of values are spelled alike. -/
def identicalItems : List Value → List Value → Bool
  | [], [] => true
  | v :: vs, w :: ws => identical v w && identicalItems vs ws
  | _, _ => false

/-- Whether two lists of fields are spelled alike. -/
def identicalFields : List (String × Value) → List (String × Value) → Bool
  | [], [] => true
  | (k, v) :: vs, (l, w) :: ws => k == l && identical v w && identicalFields vs ws
  | _, _ => false

end

mutual

theorem identical_iff (v w : Value) : identical v w = true ↔ v = w := by
  cases v with
  | list xs => cases w <;> simp [identical, identicalItems_iff xs]
  | doc xs => cases w <;> simp [identical, identicalFields_iff xs]
  | _ => cases w <;> simp [identical]

theorem identicalItems_iff (vs ws : List Value) : identicalItems vs ws = true ↔ vs = ws := by
  cases vs with
  | nil => cases ws <;> simp [identicalItems]
  | cons v vs => cases ws <;> simp [identicalItems, identical_iff v, identicalItems_iff vs]

theorem identicalFields_iff (vs ws : List (String × Value)) :
    identicalFields vs ws = true ↔ vs = ws := by
  cases vs with
  | nil => cases ws <;> simp [identicalFields]
  | cons p vs =>
    obtain ⟨k, v⟩ := p
    cases ws with
    | nil => simp [identicalFields]
    | cons q ws =>
      obtain ⟨l, w⟩ := q
      simp [identicalFields, identical_iff v, identicalFields_iff vs, and_assoc]

end

instance : DecidableEq Value := fun v w => decidable_of_iff _ (identical_iff v w)

end Value

end Bringup
