import Bringup.Check.Shape
import Bringup.Failure.Basic
import Bringup.Value.Equal

/-!
# Index declarations

* `IndexSpec` : the fields of an index with their directions, its flags and its name;
* `IndexSpec.check` : such a declaration from a value;
* `IndexInfo` : an index as the server reports it;
* `IndexSpec.matches?` : whether a reported index is the declared one.

A direction that the server reports may be any value that stands for a whole number; one that stands
for none makes the comparison fail.
-/

namespace Bringup

/-- The order of an index along a field. -/
inductive Direction where
  | ascending
  | descending
  deriving DecidableEq, Repr

namespace Direction

/-- The number of a direction. -/
def number : Direction → Int
  | .ascending => 1
  | .descending => -1

/-- The direction of a number. -/
def ofNumber? (n : Int) : Option Direction :=
  if n = 1 then some .ascending else if n = -1 then some .descending else none

theorem ofNumber?_number (d : Direction) : ofNumber? d.number = some d := by
  cases d <;> rfl

end Direction

/-- A declared index. -/
structure IndexSpec where
  keys : List (String × Direction)
  unique : Bool
  sparse : Bool
  name : Option String
  deriving DecidableEq, Repr

/-- An index as the server reports it: the items of its key, and the values of its flags. -/
structure IndexInfo where
  key : Option (List (List Value))
  unique : Option Value
  sparse : Option Value
  deriving DecidableEq

namespace IndexSpec

/-- The name that stands for the keys: fields and directions joined by underscores. -/
def keysName (keys : List (String × Direction)) : String :=
  "_".intercalate (keys.map fun (field, d) => s!"{field}_{d.number}")

/-- The name of the index: the declared one, or one made of its keys. -/
def indexName (index : IndexSpec) : String :=
  match index.name with
  | some name => if name.isEmpty then keysName index.keys else name
  | none => keysName index.keys

/-- The flags that are set, by name. -/
def flags (index : IndexSpec) : List String :=
  (if index.unique then ["unique"] else []) ++ (if index.sparse then ["sparse"] else [])

/-- The index in messages: its name, and its flags if it has any. -/
def describe (index : IndexSpec) : String :=
  if index.flags.isEmpty then index.indexName
  else s!"{index.indexName} (" ++ ", ".intercalate index.flags ++ ")"

/-! ### From a value -/

/-- The keys of an index; `seen` are the fields before them. -/
def checkKeys (seen : List String) : List (String × Int) → Checked (List (String × Direction))
  | [] => .valid []
  | (field, n) :: rest =>
    if isBlankText field then .problem (.refused "Index field name must not be empty")
    else if field ∈ seen then
      .problem (.refused s!"Index field '{field}' is declared more than once")
    else
      match Direction.ofNumber? n with
      | none =>
        .problem (.refused
          (s!"Invalid direction {n} for index field '{field}'. "
            ++ "Must be 1 (ascending) or -1 (descending)"))
      | some d => (checkKeys (field :: seen) rest).map ((field, d) :: ·)

/-- The keys of an index from a value. -/
def keysOf (v : Value) : Checked (List (String × Direction)) :=
  (Check.list (Check.pair Check.text Check.integer) v).bind fun pairs =>
    if pairs.isEmpty then .problem .listTooShort else checkKeys [] pairs

/-- An index declaration from a value. -/
def check : Value → Checked IndexSpec :=
  Check.model "IndexSpec" fun fields =>
    IndexSpec.mk
      <$> Check.required "keys" keysOf fields
      <*> Check.optional "unique" false Check.truth fields
      <*> Check.optional "sparse" false Check.truth fields
      <*> Check.optional "name" none (Check.orNull Check.text) fields

/-! ### Comparison with a reported index -/

/-- The failure of a value that stands for no whole number. -/
def directionFailure (fault : IntegerFault) : Failure :=
  match fault with
  | .notNumeric _ => .ofRuntime .type fault.message
  | .infinite => .ofRuntime .overflow fault.message
  | _ => .ofRuntime .value fault.message

/-- A reported pair of field and direction. -/
def reportedPair : List Value → Except Failure (Value × Int)
  | [field, direction] =>
    match direction.toInteger with
    | .ok n => .ok (field, n)
    | .error fault => .error (directionFailure fault)
  | [] => .error (tooFew 0)
  | [_] => .error (tooFew 1)
  | _ => .error (.ofRuntime .value "too many values to unpack (expected 2)")
where
  /-- The failure of a pair with too few items. -/
  tooFew (count : Nat) : Failure :=
    .ofRuntime .value s!"not enough values to unpack (expected 2, got {count})"

/-- The reported pairs of fields and directions; the first bad one counts. -/
def reportedKeys : List (List Value) → Except Failure (List (Value × Int))
  | [] => .ok []
  | pair :: rest =>
    match reportedPair pair with
    | .error e => .error e
    | .ok p => (reportedKeys rest).map (p :: ·)

/-- A reported flag: anything but empty, zero and null counts as set. -/
def reportedFlag (flag : Option Value) : Bool := (flag.map Value.isTruthy).getD false

/-- The reported keys are the declared ones, in their order. -/
def sameKeys : List (Value × Int) → List (String × Direction) → Bool
  | [], [] => true
  | (v, n) :: reported, (field, d) :: declared =>
    v.equal (.str field) && n == d.number && sameKeys reported declared
  | _, _ => false

/-- Whether a reported index has the declared keys and flags. -/
def matches? (index : IndexSpec) (info : IndexInfo) : Except Failure Bool :=
  (reportedKeys (info.key.getD [])).map fun reported =>
    sameKeys reported index.keys
      && reportedFlag info.unique == index.unique
      && reportedFlag info.sparse == index.sparse

end IndexSpec

namespace IndexInfo

/-- The reported key in messages. -/
def keyText (info : IndexInfo) : String :=
  match info.key with
  | none => Value.null.inspect
  | some key => listText (key.map fun items => tupleText (items.map Value.inspect))

/-- A reported flag in messages; one that is missing is false. -/
def flagText (flag : Option Value) : String := (flag.getD (.bool false)).display

end IndexInfo

end Bringup
