import Bringup.Value.Display
import Bringup.Text.Blank
import Bringup.Text.Digit

/-!
# Whole numbers of values

* `Value.toInteger` : the whole number that a value stands for, or why it stands for none;
* `IntegerFault` : those reasons;
* `Value.showable` : whether every whole number in a value has a text.

A floating-point number loses its fraction.  A text holds a sign and decimal digits of any script,
single underscores between them, and white space around.  `digitLimit` bounds their count, in a text that
is read and in one that is written.
-/

namespace Bringup

/-- Why a value stands for no whole number. -/
inductive IntegerFault where
  | notNumeric (kind : String)
  | badLiteral (text : String)
  | tooManyDigits (count : Nat)
  | infinite
  | notANumber
  deriving DecidableEq, Repr

/-- The most digits that a text of a whole number may have. -/
def digitLimit : Nat := 4300

/-- What is said of a text with too many digits. -/
def tooManyDigitsText (count : Nat) : String :=
  s!"Exceeds the limit ({digitLimit} digits) for integer string conversion: value has {count} digits; "
    ++ "use sys.set_int_max_str_digits() to increase the limit"

/-- What is said of a whole number that would need more digits. -/
def unshowableText : String :=
  s!"Exceeds the limit ({digitLimit} digits) for integer string conversion; "
    ++ "use sys.set_int_max_str_digits() to increase the limit"

namespace IntegerFault

/-- The most characters of a bad text that are shown. -/
def shownLimit : Nat := 200

/-- What is said of a fault. -/
def message : IntegerFault → String
  | .notNumeric kind =>
    "int() argument must be a string, a bytes-like object or a real number, not '" ++ kind ++ "'"
  | .badLiteral text =>
    "invalid literal for int() with base 10: " ++ String.ofList ((quote text).toList.take shownLimit)
  | .tooManyDigits count => tooManyDigitsText count
  | .infinite => "cannot convert float infinity to integer"
  | .notANumber => "cannot convert float NaN to integer"

end IntegerFault

/-- No two underscores meet and none stands at an end. -/
def underscoresApart (cs : List Char) : Bool :=
  cs.head? != some '_' && cs.getLast? != some '_'
    && (cs.zip cs.tail).all fun (a, b) => !(a == '_' && b == '_')

/-- A sign at the start of a text, and what follows; true stands for minus. -/
def splitSign : List Char → Bool × List Char
  | '-' :: cs => (true, cs)
  | '+' :: cs => (false, cs)
  | cs => (false, cs)

/-- The whole number that a text spells. -/
def integerOfText (text : String) : Except IntegerFault Int :=
  let (negative, cs) := splitSign (trimList isWhiteSpace text.toList)
  let run := cs.takeWhile fun c => c == '_' || (decimalDigit? c).isSome
  let digits := run.filterMap decimalDigit?
  if digits.isEmpty || !underscoresApart run then .error (.badLiteral text)
  else if digitLimit < digits.length then .error (.tooManyDigits digits.length)
  else if run.length < cs.length then .error (.badLiteral text)
  else .ok (if negative then -(ofDigits digits : Int) else ofDigits digits)

/-- The whole number that a value stands for. -/
def Value.toInteger : Value → Except IntegerFault Int
  | .int n => .ok n
  | .bool b => .ok (if b then 1 else 0)
  | .float x =>
    match x.truncate? with
    | some n => .ok n
    | none => .error (if x.isNan then .notANumber else .infinite)
  | .str s => integerOfText s
  | v => .error (.notNumeric v.kindName)

namespace Value

mutual

/-- Whether every whole number in a value has a text. -/
def showable : Value → Bool
  | .int n => (Nat.toDigits 10 n.natAbs).length ≤ digitLimit
  | .list items => showableItems items
  | .doc fields => showableFields fields
  | _ => true

/-- The same for the items of a list. -/
def showableItems : List Value → Bool
  | [] => true
  | v :: vs => showable v && showableItems vs

/-- The same for the fields of a document. -/
def showableFields : List (String × Value) → Bool
  | [] => true
  | (_, v) :: rest => showable v && showableFields rest

end

end Value

end Bringup
