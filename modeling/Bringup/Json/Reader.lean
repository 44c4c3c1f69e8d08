import Bringup.Value.Integer
import Bringup.Text.Lines

/-!
# Reading JSON

* `Json.read` : the value that a text spells, or what is wrong with it;
* `Json.Fault` : what is wrong, with the part of the text from the place on where it shows;
* `Json.Fault.message` : what is said of it, with line, column and offset.

Besides the numbers of JSON, `NaN`, `Infinity` and `-Infinity` are read.  A number with a fraction or
an exponent is a floating-point number and any other a whole one.  Of fields with one name the last
counts, in the place of the first.  Half a pair of code units, without its other half, is no character and
is read as U+FFFD.
-/

namespace Bringup.Json

/-- What a text does wrong. -/
inductive FaultKind where
  | byteOrderMark
  | noValue
  | noName
  | noColon
  | noComma
  | extraData
  | unterminated
  | badEscape
  | badCodeUnit
  | controlCharacter
  deriving DecidableEq, Repr

/-- A fault of a text: its kind and the text from its place on; or a number with too many digits. -/
inductive Fault where
  | malformed (kind : FaultKind) (rest : List Char)
  | tooManyDigits (count : Nat)
  deriving DecidableEq, Repr

/-- What is said of a kind of fault. -/
def FaultKind.message : FaultKind → String
  | .byteOrderMark => "Unexpected UTF-8 BOM (decode using utf-8-sig)"
  | .noValue => "Expecting value"
  | .noName => "Expecting property name enclosed in double quotes"
  | .noColon => "Expecting ':' delimiter"
  | .noComma => "Expecting ',' delimiter"
  | .extraData => "Extra data"
  | .unterminated => "Unterminated string starting at"
  | .badEscape => "Invalid \\escape"
  | .badCodeUnit => "Invalid \\uXXXX escape"
  | .controlCharacter => "Invalid control character at"

/-- What is said of a fault of the text `source`. -/
def Fault.message (source : List Char) : Fault → String
  | .malformed kind rest =>
    let place := placeOf (source.take (source.length - rest.length))
    s!"{kind.message}: line {place.line} column {place.column} (char {place.offset})"
  | .tooManyDigits count => tooManyDigitsText count

/-- What a reader gives: a value and the text after it. -/
abbrev Result (α : Type) := Except Fault (α × List Char)

/-- A fault of a kind at the start of `rest`. -/
def fail {α : Type} (kind : FaultKind) (rest : List Char) : Except Fault α :=
  .error (.malformed kind rest)

/-- The blanks of JSON. -/
def isSpace (c : Char) : Bool := c == ' ' || c == '\t' || c == '\n' || c == '\r'

/-- A text without the blanks at its start. -/
def skipSpace (cs : List Char) : List Char := cs.dropWhile isSpace

/-- The value of a hexadecimal digit. -/
def hexValue? (c : Char) : Option Nat :=
  if '0' ≤ c ∧ c ≤ '9' then some (c.toNat - '0'.toNat)
  else if 'a' ≤ c ∧ c ≤ 'f' then some (c.toNat - 'a'.toNat + 10)
  else if 'A' ≤ c ∧ c ≤ 'F' then some (c.toNat - 'A'.toNat + 10)
  else none

/-- The number that four hexadecimal digits spell. -/
def codeUnit? (a b c d : Char) : Option Nat := do
  let a ← hexValue? a
  let b ← hexValue? b
  let c ← hexValue? c
  let d ← hexValue? d
  some (((a * 16 + b) * 16 + c) * 16 + d)

/-- The first half of a pair of code units. -/
def isHigh (n : Nat) : Bool := 0xD800 ≤ n && n < 0xDC00

/-- The second half of a pair of code units. -/
def isLow (n : Nat) : Bool := 0xDC00 ≤ n && n < 0xE000

/-- The character of one code unit; half of a pair alone is replaced. -/
def unitChar (n : Nat) : Char := if isHigh n || isLow n then '\uFFFD' else Char.ofNat n

/-- The character of a pair of code units. -/
def pairChar (high low : Nat) : Char :=
  Char.ofNat (0x10000 + (high - 0xD800) * 0x400 + (low - 0xDC00))

/-- The character that a letter after a backslash stands for. -/
def escape? : Char → Option Char
  | '"' => some '"'
  | '\\' => some '\\'
  | '/' => some '/'
  | 'b' => some '\x08'
  | 'f' => some '\x0c'
  | 'n' => some '\n'
  | 'r' => some '\r'
  | 't' => some '\t'
  | _ => none

/-- Puts a character before the text that was read. -/
def cons (c : Char) (r : Result (List Char)) : Result (List Char) :=
  r.map fun (cs, rest) => (c :: cs, rest)

/-- Reads up to the closing quote; `opening` is the text from the opening quote on. -/
def readChars (opening : List Char) : List Char → Result (List Char)
  | [] => fail .unterminated opening
  | '"' :: rest => .ok ([], rest)
  | '\\' :: 'u' :: a :: b :: c :: d :: rest =>
    match codeUnit? a b c d with
    | none => fail .badCodeUnit ('u' :: a :: b :: c :: d :: rest)
    | some high =>
      if rest.isEmpty then fail .badCodeUnit ['u', a, b, c, d]
      else if !isHigh high then cons (unitChar high) (readChars opening rest)
      else
        match rest with
        | '\\' :: 'u' :: e :: f :: g :: h :: i :: after =>
          match codeUnit? e f g h with
          | none => fail .badCodeUnit ('u' :: e :: f :: g :: h :: i :: after)
          | some low =>
            if isLow low then cons (pairChar high low) (readChars opening (i :: after))
            else
              cons (unitChar high)
                (readChars opening ('\\' :: 'u' :: e :: f :: g :: h :: i :: after))
        | rest => cons (unitChar high) (readChars opening rest)
  | '\\' :: 'u' :: rest => fail .badCodeUnit ('u' :: rest)
  | ['\\'] => fail .unterminated opening
  | '\\' :: c :: rest =>
    match escape? c with
    | some e => cons e (readChars opening rest)
    | none => fail .badEscape ('\\' :: c :: rest)
  | c :: rest =>
    if c.toNat < 0x20 then fail .controlCharacter (c :: rest)
    else cons c (readChars opening rest)

/-- Reads a text; the opening quote has been read. -/
def readText (rest : List Char) : Result String :=
  (readChars ('"' :: rest) rest).map fun (cs, rest) => (String.ofList cs, rest)

/-- The digits at the start of a text, and what follows. -/
def spanDigits (cs : List Char) : List Char × List Char := cs.span Char.isDigit

/-- The whole part of a number: a zero alone, or digits that do not begin with one. -/
def wholePart? : List Char → Option (List Char × List Char)
  | '0' :: rest => some (['0'], rest)
  | cs =>
    let (digits, rest) := spanDigits cs
    if digits.isEmpty then none else some (digits, rest)

/-- The fraction of a number, if there is one: a point and at least one digit. -/
def fractionPart : List Char → List Char × List Char
  | '.' :: cs =>
    let (digits, rest) := spanDigits cs
    if digits.isEmpty then ([], '.' :: cs) else (digits, rest)
  | cs => ([], cs)

/-- The exponent of a number, if there is one: a letter, a sign and at least one digit. -/
def exponentPart (cs : List Char) : Option Int × List Char :=
  match cs with
  | c :: after =>
    if c = 'e' ∨ c = 'E' then
      let (negative, signed) := splitSign after
      let (digits, rest) := spanDigits signed
      if digits.isEmpty then (none, cs)
      else
        let n := ofDigits (digits.filterMap asciiDigit?)
        (some (if negative then -(n : Int) else n), rest)
    else (none, cs)
  | [] => (none, [])

/-- The number that digits spell. -/
def digitsValue (digits : List Char) : Nat := ofDigits (digits.filterMap asciiDigit?)

/-- Reads a number after its sign; `start` is the text from the sign on. -/
def readNumber (start : List Char) (negative : Bool) (cs : List Char) : Result Value :=
  match wholePart? cs with
  | none => fail .noValue start
  | some (whole, rest) =>
    let (fraction, rest) := fractionPart rest
    let (exponent?, rest) := exponentPart rest
    if fraction.isEmpty && exponent?.isNone then
      if digitLimit < whole.length then .error (.tooManyDigits whole.length)
      else
        let n : Int := digitsValue whole
        .ok (.int (if negative then -n else n), rest)
    else
      let digits := digitsValue (whole ++ fraction)
      let exponent : Int := exponent?.getD 0 - fraction.length
      .ok (.float (Binary64.ofScientific negative digits exponent), rest)

/-- Reads a value that is neither a list nor a document. -/
def readScalar (cs : List Char) : Result Value :=
  match cs with
  | '"' :: rest => (readText rest).map fun (s, rest) => (.str s, rest)
  | 'n' :: 'u' :: 'l' :: 'l' :: rest => .ok (.null, rest)
  | 't' :: 'r' :: 'u' :: 'e' :: rest => .ok (.bool true, rest)
  | 'f' :: 'a' :: 'l' :: 's' :: 'e' :: rest => .ok (.bool false, rest)
  | 'N' :: 'a' :: 'N' :: rest => .ok (.float .nan, rest)
  | 'I' :: 'n' :: 'f' :: 'i' :: 'n' :: 'i' :: 't' :: 'y' :: rest => .ok (.float (.infinity false), rest)
  | '-' :: 'I' :: 'n' :: 'f' :: 'i' :: 'n' :: 'i' :: 't' :: 'y' :: rest =>
    .ok (.float (.infinity true), rest)
  | '-' :: rest => readNumber cs true rest
  | _ => readNumber cs false cs

/-- Reads up to `close`, after the opening character: nothing, or what `more` reads. -/
def readEnclosed {α : Type} (close : Char) (more : List Char → Result (List α)) (cs : List Char) :
    Result (List α) :=
  match skipSpace cs with
  | [] => more []
  | c :: rest => if c = close then .ok ([], rest) else more (c :: rest)

/-- Reads on after `a`: up to `close`, or a comma and what `more` reads. -/
def readSequel {α : Type} (close : Char) (more : List Char → Result (List α)) :
    α × List Char → Result (List α)
  | (a, cs) =>
    match skipSpace cs with
    | [] => fail .noComma []
    | c :: rest =>
      if c = close then .ok ([a], rest)
      else if c = ',' then (more (skipSpace rest)).map fun (as, rest) => (a :: as, rest)
      else fail .noComma (c :: rest)

/-- Reads a name, a colon, and what `value` reads. -/
def readField (value : List Char → Result Value) : List Char → Result (String × Value)
  | '"' :: rest =>
    (readText rest).bind fun (name, rest) =>
      match skipSpace rest with
      | ':' :: rest => (value (skipSpace rest)).map fun (v, rest) => ((name, v), rest)
      | rest => fail .noColon rest
  | cs => fail .noName cs

mutual

/-- Reads a value; `fuel` bounds the number of steps. -/
def readValue : Nat → List Char → Result Value
  | 0, cs => fail .noValue cs
  | fuel + 1, cs =>
    match cs with
    | '{' :: rest =>
      (readEnclosed '}' (readFields fuel) rest).map fun (fields, rest) =>
        (.doc (Assoc.putAll fields []), rest)
    | '[' :: rest =>
      (readEnclosed ']' (readItems fuel) rest).map fun (items, rest) => (.list items, rest)
    | cs => readScalar cs

/-- Reads items separated by commas, and the bracket that closes them. -/
def readItems : Nat → List Char → Result (List Value)
  | 0, cs => fail .noValue cs
  | fuel + 1, cs => (readValue fuel cs).bind (readSequel ']' (readItems fuel))

/-- Reads fields separated by commas, and the brace that closes them. -/
def readFields : Nat → List Char → Result (List (String × Value))
  | 0, cs => fail .noName cs
  | fuel + 1, cs => (readField (readValue fuel) cs).bind (readSequel '}' (readFields fuel))

end

/-- The value that a text spells.  A list takes two steps to reach its first item, so twice the length
of the text bounds the steps. -/
def read (cs : List Char) : Except Fault Value :=
  if cs.head? = some '\uFEFF' then fail .byteOrderMark cs
  else
    match readValue (2 * cs.length + 1) (skipSpace cs) with
    | .error e => .error e
    | .ok (v, rest) => if (skipSpace rest).isEmpty then .ok v else fail .extraData (skipSpace rest)

end Bringup.Json
