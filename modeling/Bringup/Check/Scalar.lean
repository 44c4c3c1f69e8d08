import Bringup.Check.Checked
import Bringup.Value.Integer

/-!
# Checks of texts, whole numbers and truth values

* `Check.text`, `Check.filledText` : a text, or one with at least one character;
* `Check.integer`, `Check.truth` : a whole number or a truth value, also from other values that spell one;
* `Check.orNull`, `Check.atLeast`, `Check.atMost` : null instead of a value, and bounds of a number.
-/

namespace Bringup.Check

/-- A text. -/
def text : Value → Checked String
  | .str s => .valid s
  | _ => .problem .notText

/-- A text with at least one character. -/
def filledText (v : Value) : Checked String :=
  (text v).bind fun s => if s.isEmpty then .problem .textTooShort else .valid s

/-- Null, or what `check` accepts. -/
def orNull {α : Type} (check : Value → Checked α) : Value → Checked (Option α)
  | .null => .valid none
  | v => (check v).map some

/-- A text without a point and the zeros after it, if it ends so. -/
def dropZeroFraction (cs : List Char) : List Char :=
  let (whole, fraction) := cs.span (· ≠ '.')
  match fraction with
  | _ :: zeros => if !zeros.isEmpty && zeros.all (· == '0') then whole else cs
  | [] => cs

/-- The whole number that a text of a field spells: a sign, ASCII digits with single underscores between
them, perhaps a point and zeros, and white space around. -/
def integerText (s : String) : Checked Int :=
  let cs := trimList isWhiteSpace s.toList
  let (negative, unsigned) := splitSign cs
  let digits := dropZeroFraction unsigned
  if digitLimit < cs.length then .problem .integerTooLarge
  else if digits.any (·.isDigit) && digits.all (fun c => c.isDigit || c == '_')
      && underscoresApart digits then
    let n := ofDigits (digits.filterMap asciiDigit?)
    .valid (if negative then -(n : Int) else n)
  else .problem .notIntegerText

/-- Floating-point numbers of this size and beyond are no whole numbers of a field. -/
def floatBound : Int := (1 <<< 63 : Nat)

/-- The whole number that a floating-point number is. -/
def integerFloat (x : Binary64) : Checked Int :=
  match x.truncate? with
  | none => .problem .notFinite
  | some n =>
    if !x.isWhole then .problem .fractional
    else if -floatBound < n ∧ n < floatBound then .valid n
    else .problem .integerTooLarge

/-- A whole number, or a value that spells one. -/
def integer : Value → Checked Int
  | .int n => .valid n
  | .bool b => .valid (if b then 1 else 0)
  | .float x => integerFloat x
  | .str s => integerText s
  | _ => .problem .notAnInteger

/-- A whole number that is not below `least`. -/
def atLeast (least : Int) (n : Int) : Checked Int :=
  if n < least then .problem (.tooSmall least) else .valid n

/-- A whole number that is not above `greatest`. -/
def atMost (greatest : Int) (n : Int) : Checked Int :=
  if greatest < n then .problem (.tooLarge greatest) else .valid n

/-- The texts that stand for true. -/
def trueTexts : List String := ["1", "true", "t", "yes", "y", "on"]

/-- The texts that stand for false. -/
def falseTexts : List String := ["0", "false", "f", "no", "n", "off"]

/-- The truth value that a text spells, in letters of either case. -/
def truthText (s : String) : Checked Bool :=
  let s := String.ofList (s.toList.map Char.toLower)
  if s ∈ trueTexts then .valid true
  else if s ∈ falseTexts then .valid false
  else .problem .notATruthText

/-- A truth value, or a value that spells one. -/
def truth : Value → Checked Bool
  | .bool b => .valid b
  | .int 0 => .valid false
  | .int 1 => .valid true
  | .int _ => .problem .notATruthText
  | .float x =>
    if x.equalInt 0 then .valid false
    else if x.equalInt 1 then .valid true
    else .problem .notATruthValue
  | .str s => truthText s
  | _ => .problem .notATruthValue

end Bringup.Check
