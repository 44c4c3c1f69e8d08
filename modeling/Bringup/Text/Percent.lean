import Bringup.Failure.Basic
import Bringup.Number.Places
import Bringup.Value.Integer

/-!
# Texts with places for values

* `Percent.format` : a text in which directives such as `%s`, `%5d` or `%(name)s` are replaced by values;
* `Arguments` : the values: some in their order, or a single one, whose fields can be named;
* `PercentFault` : why a text cannot be filled in.

A directive is a percent sign, perhaps a name in parentheses, flags among `-+ #0`, a width, a precision
after a point, and a letter.  A star takes width or precision from the values.  `%%` is a percent sign.
-/

namespace Bringup

/-- The values for the places of a text. -/
inductive Arguments where
  | positional (values : List Value)
  | single (value : Value)

/-- Why a text cannot be filled in. -/
inductive PercentFault where
  | tooFew
  | tooMany
  | incomplete
  | incompleteName
  | noFields
  | noFieldsInList
  | noSuchField (name : String)
  | starNotInteger
  | notReal (letter : Char) (kind : String)
  | notInteger (letter : Char) (kind : String)
  | notFloat (kind : String)
  | notCharacter
  | characterTooLarge
  | badInteger (fault : IntegerFault)
  | floatTooLarge
  | unshowable
  | sizeTooLarge
  | unknownLetter (letter : Char) (index : Nat)
  deriving DecidableEq, Repr

namespace PercentFault

/-- A letter in messages; one that does not show in ASCII is replaced. -/
def shownLetter (c : Char) : Char := if 31 ≤ c.toNat ∧ c.toNat < 127 then c else '?'

/-- The failure of a fault. -/
def failure : PercentFault → Failure
  | .tooFew => .ofRuntime .type "not enough arguments for format string"
  | .tooMany => .ofRuntime .type "not all arguments converted during string formatting"
  | .incomplete => .ofRuntime .value "incomplete format"
  | .incompleteName => .ofRuntime .value "incomplete format key"
  | .noFields => .ofRuntime .type "format requires a mapping"
  | .noFieldsInList => .ofRuntime .type "list indices must be integers or slices, not str"
  | .noSuchField name => .ofRuntime .key name
  | .starNotInteger => .ofRuntime .type "* wants int"
  | .notReal letter kind =>
    .ofRuntime .type s!"%{letter} format: a real number is required, not {kind}"
  | .notInteger letter kind =>
    .ofRuntime .type s!"%{letter} format: an integer is required, not {kind}"
  | .notFloat kind => .ofRuntime .type s!"must be real number, not {kind}"
  | .notCharacter => .ofRuntime .type "%c requires int or char"
  | .characterTooLarge => .ofRuntime .overflow "%c arg not in range(0x110000)"
  | .badInteger .infinite => .ofRuntime .overflow IntegerFault.infinite.message
  | .badInteger fault => .ofRuntime .value fault.message
  | .floatTooLarge => .ofRuntime .overflow "int too large to convert to float"
  | .unshowable => .ofRuntime .value unshowableText
  | .sizeTooLarge => .ofRuntime .overflow "Python int too large to convert to C ssize_t"
  | .unknownLetter letter index =>
    .ofRuntime .value
      ("unsupported format character '" ++ String.singleton (shownLetter letter) ++ "' (0x"
        ++ String.ofList (Nat.toDigits 16 letter.toNat) ++ s!") at index {index}")

end PercentFault

namespace Percent

/-- The values that are still to be placed: those in order, the value whose fields can be named, and
whether all must be placed. -/
structure Supply where
  values : List Value
  named : Option Value
  exact : Bool

/-- The supply of arguments.  The fields of a single document can be named, and it need not be placed;
nor need a single list. -/
def Supply.ofArguments : Arguments → Supply
  | .positional values => ⟨values, none, true⟩
  | .single v =>
    match v with
    | .doc _ | .list _ => ⟨[v], some v, false⟩
    | v => ⟨[v], none, true⟩

/-- The next value, and the supply without it. -/
def Supply.next (s : Supply) : Except PercentFault (Value × Supply) :=
  match s.values with
  | [] => .error .tooFew
  | v :: rest => .ok (v, { s with values := rest })

/-- The supply of the named field alone. -/
def Supply.select (s : Supply) (name : String) : Except PercentFault Supply :=
  match s.named with
  | some (.doc fields) =>
    match fields.lookup name with
    | some v => .ok { s with values := [v] }
    | none => .error (.noSuchField name)
  | some _ => .error .noFieldsInList
  | none => .error .noFields

/-- How a value is laid out: flags, width, and precision. -/
structure Layout where
  left : Bool
  plus : Bool
  blank : Bool
  alternate : Bool
  zero : Bool
  width : Nat
  precision : Option Nat

/-- A text, padded to the width. -/
def Layout.text (l : Layout) (body : List Char) : List Char :=
  let pad := List.replicate (l.width - body.length) ' '
  if l.left then body ++ pad else pad ++ body

/-- A number: sign, base mark and digits, padded to the width by blanks, or by zeros before the digits. -/
def Layout.number (l : Layout) (negative : Bool) (base digits : List Char) : List Char :=
  let sign := if negative then ['-'] else if l.plus then ['+'] else if l.blank then [' '] else []
  let lead := sign ++ base
  let missing := l.width - (lead.length + digits.length)
  if l.left then lead ++ digits ++ List.replicate missing ' '
  else if l.zero then lead ++ List.replicate missing '0' ++ digits
  else List.replicate missing ' ' ++ lead ++ digits

/-! ### Reading a directive -/

/-- The name in parentheses, and what follows; `depth` parentheses are open. -/
def readName : Nat → List Char → Option (List Char × List Char)
  | _, [] => none
  | depth, ')' :: cs =>
    match depth with
    | 0 => some ([], cs)
    | d + 1 => (readName d cs).map fun (name, rest) => (')' :: name, rest)
  | depth, c :: cs =>
    (readName (if c = '(' then depth + 1 else depth) cs).map fun (name, rest) => (c :: name, rest)

/-- The characters that are flags. -/
def isFlag (c : Char) : Bool := c == '-' || c == '+' || c == ' ' || c == '#' || c == '0'

/-- A number at the start of a text, zero if there is none, and what follows. -/
def readCount (cs : List Char) : Nat × List Char :=
  let digits := cs.takeWhile Char.isDigit
  (ofDigits (digits.filterMap asciiDigit?), cs.drop digits.length)

/-- The greatest size that a star can take from a value. -/
def sizeLimit : Int := (1 <<< 63 : Nat) - 1

/-- A number at the start of a text, or a star for the next value. -/
def readSize (cs : List Char) (s : Supply) : Except PercentFault (Int × List Char × Supply) :=
  match cs with
  | '*' :: rest =>
    match s.next with
    | .error e => .error e
    | .ok (.int n, s) =>
      if sizeLimit < n.natAbs then .error .sizeTooLarge else .ok (n, rest, s)
    | .ok (.bool b, s) => .ok (if b then 1 else 0, rest, s)
    | .ok _ => .error .starNotInteger
  | cs => let (n, rest) := readCount cs; .ok (n, rest, s)

/-- The layout of a directive, what follows, and the supply after the stars. -/
def readLayout (cs : List Char) (s : Supply) : Except PercentFault (Layout × List Char × Supply) := do
  let flags := cs.takeWhile isFlag
  let (width, cs, s) ← readSize (cs.drop flags.length) s
  let (precision, cs, s) ←
    match cs with
    | '.' :: rest => do
      let (n, rest, s) ← readSize rest s
      pure (some n.toNat, rest, s)
    | cs => pure (none, cs, s)
  let layout : Layout :=
    { left := flags.contains '-' || width < 0
      plus := flags.contains '+'
      blank := flags.contains ' '
      alternate := flags.contains '#'
      zero := flags.contains '0'
      width := width.natAbs
      precision }
  return (layout, cs, s)

/-- A text without the letter for a size, which has no meaning. -/
def skipSizeLetter : List Char → List Char
  | c :: cs => if c = 'h' ∨ c = 'l' ∨ c = 'L' then cs else c :: cs
  | [] => []

/-! ### Placing a value -/

/-- A whole number for the letters that take one. -/
def integerFor (letter : Char) (v : Value) : Except PercentFault Int :=
  let exact := letter = 'o' ∨ letter = 'x' ∨ letter = 'X'
  match v with
  | .int n => .ok n
  | .bool b => .ok (if b then 1 else 0)
  | .float x =>
    if exact then .error (.notInteger letter v.kindName)
    else
      match x.truncate? with
      | some n => .ok n
      | none => .error (.badInteger (if x.isNan then .notANumber else .infinite))
  | v => .error (if exact then .notInteger letter v.kindName else .notReal letter v.kindName)

/-- Upper-case letters for a letter that is one. -/
def likeLetter (letter : Char) (cs : List Char) : List Char :=
  if letter.isUpper then cs.map Char.toUpper else cs

/-- A whole number in the base of the letter. -/
def placeInteger (l : Layout) (letter : Char) (n : Int) : List Char :=
  let (base, mark) : Nat × List Char :=
    match letter with
    | 'o' => (8, ['0', 'o'])
    | 'x' => (16, ['0', 'x'])
    | 'X' => (16, ['0', 'X'])
    | _ => (10, [])
  let digits := Nat.toDigits base n.natAbs
  let zeros := List.replicate (l.precision.getD 0 - digits.length) '0'
  l.number (n < 0) (if l.alternate then mark else []) (zeros ++ likeLetter letter digits)

/-- A floating-point number for the letters that take one. -/
def floatFor (v : Value) : Except PercentFault Binary64 :=
  let ofWhole (n : Int) : Except PercentFault Binary64 :=
    let x := Binary64.ofInt n
    if x.isFinite then .ok x else .error .floatTooLarge
  match v with
  | .float x => .ok x
  | .int n => ofWhole n
  | .bool b => ofWhole (if b then 1 else 0)
  | v => .error (.notFloat v.kindName)

/-- A floating-point number in the form of the letter. -/
def placeFloat (l : Layout) (letter : Char) (x : Binary64) : List Char :=
  let places := l.precision.getD 6
  let digits? :=
    match letter.toLower with
    | 'e' => x.scientific? l.alternate places
    | 'f' => (x.fixed? places).map (Binary64.withPoint l.alternate)
    | _ => x.general? l.alternate places
  let digits := digits?.getD (if x.isNan then ['n', 'a', 'n'] else ['i', 'n', 'f'])
  l.number (x.negative && !x.isNan) [] (likeLetter letter digits)

/-- One character: the value itself or the one with this code point. -/
def characterFor : Value → Except PercentFault Char
  | .str s =>
    match s.toList with
    | [c] => .ok c
    | _ => .error .notCharacter
  | .int n =>
    if 0 ≤ n ∧ n < 0x110000 then .ok (Char.ofNat n.toNat) else .error .characterTooLarge
  | .bool b => .ok (if b then '\x01' else '\x00')
  | _ => .error .notCharacter

/-- A text cut to the precision. -/
def Layout.cut (l : Layout) (cs : List Char) : List Char :=
  match l.precision with
  | some n => cs.take n
  | none => cs

/-- A text of a value, unless a whole number in it has none. -/
def ifShowable (v : Value) (cs : List Char) : Except PercentFault (List Char) :=
  if v.showable then .ok cs else .error .unshowable

/-- A value in the form of the letter; `index` is the place of the letter. -/
def place (l : Layout) (letter : Char) (index : Nat) (v : Value) : Except PercentFault (List Char) :=
  match letter with
  | 's' => ifShowable v (l.text (l.cut v.display.toList))
  | 'r' => ifShowable v (l.text (l.cut v.inspect.toList))
  | 'a' => ifShowable v (l.text (l.cut (escapeBeyondAscii v.inspect.toList)))
  | 'c' => (characterFor v).map fun c => l.text [c]
  | 'd' | 'i' | 'u' => (integerFor letter v).bind fun n => ifShowable (.int n) (placeInteger l letter n)
  | 'o' | 'x' | 'X' => (integerFor letter v).map (placeInteger l letter)
  | 'e' | 'E' | 'f' | 'F' | 'g' | 'G' => (floatFor v).map (placeFloat l letter)
  | _ => .error (.unknownLetter letter index)

/-- Replaces the directives of a text of `total` characters; `fuel` bounds the number of steps. -/
def fill (total : Nat) : Nat → List Char → Supply → Except PercentFault (List Char)
  | 0, cs, _ => .ok cs
  | _ + 1, [], s => if s.exact && !s.values.isEmpty then .error .tooMany else .ok []
  | fuel + 1, '%' :: '%' :: cs, s => ('%' :: ·) <$> fill total fuel cs s
  | fuel + 1, '%' :: cs, s => do
    let (cs, s) ←
      match cs with
      | '(' :: rest =>
        if s.named.isNone then .error .noFields
        else
          match readName 0 rest with
          | none => .error .incompleteName
          | some (name, rest) => do
            let s ← s.select (String.ofList name)
            pure (rest, s)
      | cs => pure (cs, s)
    let (layout, cs, s) ← readLayout cs s
    match skipSizeLetter cs with
    | [] => .error .incomplete
    | letter :: rest =>
      let (v, s) ← s.next
      let placed ← place layout letter (total - rest.length - 1) v
      (placed ++ ·) <$> fill total fuel rest s
  | fuel + 1, c :: cs, s => (c :: ·) <$> fill total fuel cs s

/-- A text with its directives replaced by the arguments. -/
def format (text : List Char) (arguments : Arguments) : Except PercentFault (List Char) :=
  fill text.length (text.length + 1) text (Supply.ofArguments arguments)

end Percent

end Bringup
