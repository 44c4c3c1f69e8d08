import Bringup.Proofs.Check.Spelling
import Bringup.Proofs.Json.Reader

/-!
# The grammar of JSON

* `Json.Characters` : what stands between quotes, and the characters that it spells;
* `Json.WholePart`, `Json.Fraction`, `Json.Exponent`, `Json.Whole`, `Json.Real` : the parts of numbers, and
  numbers without and with a fraction or an exponent;
* `Json.SpelledBy`, `Json.TextOf` : the texts of a value, without and with blanks around;
* `Json.read_of_textOf` : the reader gives each text of a value the value, if no whole number in it is too
  long.

The grammar bounds the digits of whole numbers by a condition that it is given, as the limit of the reader is
none of the language.  The names of a document differ from each other.
-/

namespace Bringup.Json

open Spells (Sign ne_of_isDigit)

variable {cs ds fs xs s rest before after body opening : List Char} {c : Char} {n : Int} {x : Binary64}
  {e : Option Int} {negative : Bool} {fuel : Nat}

/-! ### Texts -/

/-- What stands between quotes, and the characters that it spells.  Half of a pair of code units spells
nothing. -/
inductive Characters : List Char → List Char → Prop
  | nil : Characters [] []
  | plain {c : Char} {cs s : List Char} : c ≠ '"' → c ≠ '\\' → ¬ c.toNat < 0x20 → Characters cs s →
    Characters (c :: cs) (c :: s)
  | escape {c e : Char} {cs s : List Char} : escape? c = some e → Characters cs s →
    Characters ('\\' :: c :: cs) (e :: s)
  | unit {a b c d : Char} {n : Nat} {cs s : List Char} : codeUnit? a b c d = some n →
    isHigh n = false → isLow n = false → Characters cs s →
    Characters ('\\' :: 'u' :: a :: b :: c :: d :: cs) (Char.ofNat n :: s)
  | pair {a b c d e f g h : Char} {high low : Nat} {cs s : List Char} : codeUnit? a b c d = some high →
    isHigh high = true → codeUnit? e f g h = some low → isLow low = true → Characters cs s →
    Characters ('\\' :: 'u' :: a :: b :: c :: d :: '\\' :: 'u' :: e :: f :: g :: h :: cs)
      (pairChar high low :: s)

/-- The text between quotes. -/
def QuotedText (s : String) (cs : List Char) : Prop :=
  ∃ body, cs = '"' :: (body ++ ['"']) ∧ Characters body s.toList

theorem Characters.append {cs' s' : List Char} (h : Characters cs s) (h' : Characters cs' s') :
    Characters (cs ++ cs') (s ++ s') := by
  induction h with
  | nil => exact h'
  | plain hquote hback hcontrol _ ih => exact .plain hquote hback hcontrol ih
  | escape hescape _ ih => exact .escape hescape ih
  | unit hcode hhigh hlow _ ih => exact .unit hcode hhigh hlow ih
  | pair hcode hhigh hcode' hlow _ ih => exact .pair hcode hhigh hcode' hlow ih

theorem readChars_characters (h : Characters cs s) :
    readChars opening (cs ++ '"' :: rest) = .ok (s, rest) := by
  have hquote (cs : List Char) : cs ++ '"' :: rest ≠ [] := by simp
  induction h with
  | nil => simp [readChars]
  | plain hquote hback hcontrol _ ih =>
    rw [List.cons_append, readChars_plain hquote hback hcontrol, ih]
    rfl
  | escape hescape _ ih =>
    rw [List.cons_append, List.cons_append, readChars_escape hescape, ih]
    rfl
  | @unit _ _ _ _ n cs s hcode hhigh hlow _ ih =>
    have hunit : unitChar n = Char.ofNat n := by simp [unitChar, hhigh, hlow]
    simp only [List.cons_append]
    rw [readChars_unit hcode (hquote cs) hhigh, ih, hunit]
    rfl
  | @pair _ _ _ _ _ _ _ _ high low cs s hcode hhigh hcode' hlow _ ih =>
    simp only [List.cons_append]
    rw [readChars_pair hcode hhigh hcode' (hquote cs), if_pos hlow, ih]
    rfl

theorem readText_characters {s : String} (h : Characters cs s.toList) :
    readText (cs ++ '"' :: rest) = .ok (s, rest) := by
  rw [readText, readChars_characters h]
  simp [Except.map]

/-! ### Numbers -/

/-- Digits, at least one. -/
def Digits (ds : List Char) : Prop := ds ≠ [] ∧ ∀ d ∈ ds, d.isDigit = true

/-- The whole part of a number: a zero alone, or digits that do not begin with one. -/
def WholePart (ds : List Char) : Prop := ds = ['0'] ∨ Digits ds ∧ ds.head? ≠ some '0'

/-- A fraction and its digits, or none. -/
inductive Fraction : List Char → List Char → Prop
  | none : Fraction [] []
  | point {ds : List Char} : Digits ds → Fraction ('.' :: ds) ds

/-- A number with its sign; true stands for minus. -/
def signed (negative : Bool) (n : Nat) : Int := if negative then -(n : Int) else n

/-- An exponent and its value, or none. -/
inductive Exponent : List Char → Option Int → Prop
  | none : Exponent [] Option.none
  | mark {c : Char} {sign ds : List Char} {negative : Bool} : c = 'e' ∨ c = 'E' → Sign sign negative →
    Digits ds → Exponent (c :: (sign ++ ds)) (some (signed negative (Nat.ofDigitChars 10 ds 0)))

/-- The sign of a number: a minus, or nothing. -/
def minus (negative : Bool) : List Char := if negative then ['-'] else []

/-- A whole number, with no more digits than a text of one may have. -/
def Whole (n : Int) (cs : List Char) : Prop :=
  ∃ negative ds, cs = minus negative ++ ds ∧ WholePart ds ∧ ds.length ≤ digitLimit ∧
    n = signed negative (Nat.ofDigitChars 10 ds 0)

/-- A number with a fraction or an exponent. -/
def Real (x : Binary64) (cs : List Char) : Prop :=
  ∃ negative ds f fs xs e, cs = minus negative ++ (ds ++ (f ++ xs)) ∧ WholePart ds ∧ Fraction f fs ∧
    Exponent xs e ∧ (fs ≠ [] ∨ e ≠ none) ∧
      x = Binary64.ofScientific negative (Nat.ofDigitChars 10 (ds ++ fs) 0) (e.getD 0 - fs.length)

/-- The text begins with no digit. -/
def NoDigit (cs : List Char) : Prop := ∀ c, cs.head? = some c → c.isDigit = false

/-- The text goes on with a blank, a comma or the end of a list or a document, or ends. -/
def Delimits (cs : List Char) : Prop :=
  ∀ c, cs.head? = some c → isSpace c = true ∨ c = ',' ∨ c = ']' ∨ c = '}'

theorem delimits_cons (c : Char) (cs : List Char)
    (h : isSpace c = true ∨ c = ',' ∨ c = ']' ∨ c = '}') : Delimits (c :: cs) := by
  intro d hd
  obtain rfl := Option.some.inj hd
  exact h

/-- What follows a value does not go on with a number. -/
theorem Delimits.head (h : Delimits rest) : ∀ c, rest.head? = some c →
    c.isDigit = false ∧ c ≠ '.' ∧ c ≠ 'e' ∧ c ≠ 'E' := by
  intro c hc
  have hc := h c hc
  simp only [isSpace, Bool.or_eq_true, beq_iff_eq] at hc
  rcases hc with ((((rfl | rfl) | rfl) | rfl) | rfl | rfl | rfl) <;> decide

theorem Digits.wholePart (h : Digits ds) (hzero : ds.head? ≠ some '0') : WholePart ds := .inr ⟨h, hzero⟩

theorem WholePart.digits (h : WholePart ds) : Digits ds := by
  rcases h with rfl | ⟨h, -⟩
  · exact ⟨by simp, by simp⟩
  · exact h

theorem Digits.exists_cons (h : Digits ds) : ∃ d ds', ds = d :: ds' ∧ d.isDigit = true := by
  obtain ⟨hne, hall⟩ := h
  obtain ⟨d, ds', rfl⟩ := List.exists_cons_of_ne_nil hne
  exact ⟨d, ds', rfl, hall d (by simp)⟩

theorem Digits.spanDigits (h : Digits ds) (hrest : NoDigit rest) :
    spanDigits (ds ++ rest) = (ds, rest) := spanDigits_eq_iff.2 ⟨rfl, h.2, hrest⟩

/-- The values of digits make up the number that they spell in base ten. -/
theorem digitsValue_eq (h : ∀ d ∈ ds, d.isDigit = true) : digitsValue ds = Nat.ofDigitChars 10 ds 0 := by
  have hfold : ∀ (ds : List Char) (n : Nat), (∀ d ∈ ds, d.isDigit = true) →
      (ds.filterMap asciiDigit?).foldl (fun n d => 10 * n + d) n = Nat.ofDigitChars 10 ds n := by
    intro ds
    induction ds with
    | nil => intro n _; rfl
    | cons d ds ih =>
      intro n hall
      obtain ⟨v, hv⟩ := Option.isSome_iff_exists.1 (Spells.isDigit_iff.1 (hall d (by simp)))
      have hvalue : v = d.toNat - '0'.toNat := by
        unfold asciiDigit? at hv
        split at hv
        · exact (Option.some.inj hv).symm
        · cases hv
      rw [List.filterMap_cons_some hv, List.foldl_cons, Nat.ofDigitChars_cons, hvalue]
      exact ih _ fun d hd => hall d (List.mem_cons_of_mem _ hd)
  exact hfold ds 0 h

theorem wholePart?_append (h : WholePart ds) (hrest : NoDigit rest) :
    wholePart? (ds ++ rest) = some (ds, rest) := by
  rcases h with rfl | ⟨h, hzero⟩
  · rfl
  · have hspan := h.spanDigits hrest
    obtain ⟨d, ds, rfl, -⟩ := h.exists_cons
    have hd : d ≠ '0' := by
      rintro rfl
      exact hzero rfl
    simp only [List.cons_append] at hspan ⊢
    rw [wholePart?]
    · simp [hspan]
    · simp [hd]

theorem fractionPart_append (h : Fraction cs fs) (hrest : NoDigit rest) (hpoint : rest.head? ≠ some '.') :
    fractionPart (cs ++ rest) = (fs, rest) := by
  cases h with
  | none =>
    rw [List.nil_append]
    unfold fractionPart
    split
    · exact absurd rfl hpoint
    · rfl
  | point hds =>
    rw [List.cons_append, fractionPart, hds.spanDigits hrest]
    simp [hds.1]

theorem exponentPart_append (h : Exponent cs e) (hrest : Delimits rest) :
    exponentPart (cs ++ rest) = (e, rest) := by
  cases h with
  | none =>
    rw [List.nil_append]
    unfold exponentPart
    split
    · rename_i c _
      obtain ⟨-, -, he, hE⟩ := hrest.head c rfl
      rw [if_neg (by simp [he, hE])]
    · rfl
  | @mark c sign ds negative hc hsign hds =>
    obtain ⟨d, ds', hcons, hd⟩ := hds.exists_cons
    have hsplit : splitSign (sign ++ (ds ++ rest)) = (negative, ds ++ rest) :=
      hsign.splitSign ⟨d, by rw [hcons]; rfl, hd⟩
    have hspan : spanDigits (ds ++ rest) = (ds, rest) := hds.spanDigits fun c hc => (hrest.head c hc).1
    rw [List.cons_append, List.append_assoc, exponentPart, if_pos hc]
    simp only [hsplit, hspan]
    have hne : ds.isEmpty = false := by simpa using hds.1
    have hvalue : ofDigits (ds.filterMap asciiDigit?) = Nat.ofDigitChars 10 ds 0 := digitsValue_eq hds.2
    rw [hne, if_neg Bool.false_ne_true, hvalue]
    rfl

/-- What stands behind the whole part of a number begins with no digit. -/
theorem noDigit_fraction (h : Fraction cs fs) (hrest : NoDigit rest) : NoDigit (cs ++ rest) := by
  cases h with
  | none => exact hrest
  | point _ =>
    intro c hc
    obtain rfl := Option.some.inj hc
    rfl

/-- What stands behind the fraction of a number begins with neither a digit nor a point. -/
theorem head_exponent (h : Exponent cs e) (hrest : Delimits rest) : ∀ c, (cs ++ rest).head? = some c →
    c.isDigit = false ∧ c ≠ '.' := by
  intro c hc
  cases h with
  | none => exact ⟨(hrest.head c hc).1, (hrest.head c hc).2.1⟩
  | mark hmark _ _ =>
    obtain rfl := Option.some.inj hc
    rcases hmark with rfl | rfl <;> decide

theorem readNumber_whole {start : List Char} (h : WholePart ds) (hfits : ds.length ≤ digitLimit)
    (hrest : Delimits rest) : readNumber start negative (ds ++ rest) =
      .ok (.int (signed negative (Nat.ofDigitChars 10 ds 0)), rest) := by
  have hdigit : NoDigit rest := fun c hc => (hrest.head c hc).1
  have hpoint : rest.head? ≠ some '.' := fun hc => (hrest.head _ hc).2.1 rfl
  have hfraction : fractionPart rest = ([], rest) := fractionPart_append .none hdigit hpoint
  have hexponent : exponentPart rest = (none, rest) := exponentPart_append .none hrest
  rw [readNumber, wholePart?_append h hdigit]
  simp only [hfraction, hexponent, List.isEmpty_nil, Option.isNone_none, Bool.and_self, if_true]
  rw [if_neg (by omega), digitsValue_eq h.digits.2]
  rfl

theorem readNumber_real {start : List Char} (h : WholePart ds) (hf : Fraction cs fs) (hx : Exponent xs e)
    (hreal : fs ≠ [] ∨ e ≠ none) (hrest : Delimits rest) :
    readNumber start negative (ds ++ (cs ++ xs) ++ rest) = .ok (.float (Binary64.ofScientific negative
      (Nat.ofDigitChars 10 (ds ++ fs) 0) (e.getD 0 - fs.length)), rest) := by
  have hhead := head_exponent hx hrest
  have hdigit : NoDigit (xs ++ rest) := fun c hc => (hhead c hc).1
  have hpoint : (xs ++ rest).head? ≠ some '.' := fun hc => (hhead _ hc).2 rfl
  have hempty : (fs.isEmpty && e.isNone) = false := by
    rcases hreal with hfs | he
    · simp [hfs]
    · obtain ⟨v, rfl⟩ := Option.ne_none_iff_exists'.1 he
      simp
  have hdigits : ∀ d ∈ ds ++ fs, d.isDigit = true := by
    intro d hd
    rcases List.mem_append.1 hd with hd | hd
    · exact h.digits.2 d hd
    · cases hf with
      | none => cases hd
      | point hfs => exact hfs.2 d hd
  rw [List.append_assoc, List.append_assoc, readNumber, wholePart?_append h (noDigit_fraction hf hdigit)]
  simp only [fractionPart_append hf hdigit hpoint, exponentPart_append hx hrest, hempty,
    Bool.false_eq_true, if_false, digitsValue_eq hdigits]

/-- A number is read behind its sign. -/
theorem readScalar_number {v : Value × List Char} (hds : ∃ d ds', cs = d :: ds' ∧ d.isDigit = true)
    (h : ∀ start, readNumber start negative cs = .ok v) : readScalar (minus negative ++ cs) = .ok v := by
  obtain ⟨d, ds, rfl, hd⟩ := hds
  cases negative with
  | false => exact (readScalar_digit hd).trans (h _)
  | true =>
    have hI : d ≠ 'I' := ne_of_isDigit hd (by decide)
    rw [minus, if_pos rfl, List.singleton_append, readScalar]
    · exact h _
    · simp [hI]

/-! ### Values -/

/-- Blanks only. -/
def Blank (cs : List Char) : Prop := ∀ c ∈ cs, isSpace c = true

/-- Text as `P` says, with blanks around. -/
def Padded (P : List Char → Prop) (cs : List Char) : Prop :=
  ∃ before core after, cs = before ++ (core ++ after) ∧ Blank before ∧ Blank after ∧ P core

/-- A name, a colon, and text as `P` says, with blanks around each of them. -/
def FieldText (name : String) (P : List Char → Prop) (cs : List Char) : Prop :=
  ∃ front back, cs = front ++ ':' :: back ∧ Padded (QuotedText name) front ∧ Padded P back

/-- Text as `P` says, a comma, and text as `Q` says. -/
def CommaText (P Q : List Char → Prop) (cs : List Char) : Prop :=
  ∃ first rest, cs = first ++ ',' :: rest ∧ P first ∧ Q rest

mutual

/-- The text spells the value, without blanks around. -/
def SpelledBy : Value → List Char → Prop
  | .null, cs => cs = "null".toList
  | .bool b, cs => cs = (if b then "true" else "false").toList
  | .int n, cs => Whole n cs
  | .float x, cs => Real x cs
  | .str s, cs => QuotedText s cs
  | .date _, _ => False
  | .list items, cs => ∃ body, cs = '[' :: (body ++ [']']) ∧ ItemsSpelledBy items body
  | .doc fields, cs => (Assoc.keys fields).Nodup ∧
      ∃ body, cs = '{' :: (body ++ ['}']) ∧ FieldsSpelledBy fields body

/-- The text spells the items of a list, with commas between them. -/
def ItemsSpelledBy : List Value → List Char → Prop
  | [], cs => Blank cs
  | [v], cs => Padded (SpelledBy v) cs
  | v :: w :: vs, cs => CommaText (Padded (SpelledBy v)) (ItemsSpelledBy (w :: vs)) cs

/-- The text spells the fields of a document, with commas between them. -/
def FieldsSpelledBy : List (String × Value) → List Char → Prop
  | [], cs => Blank cs
  | [(k, v)], cs => FieldText k (SpelledBy v) cs
  | (k, v) :: field :: rest, cs =>
    CommaText (FieldText k (SpelledBy v)) (FieldsSpelledBy (field :: rest)) cs

end

/-- No value begins with this character. -/
def IsOutside (c : Char) : Prop := isSpace c = true ∨ c = ',' ∨ c = ']' ∨ c = '}' ∨ c = '\uFEFF'

theorem not_isOutside_of_isDigit (h : c.isDigit = true) : ¬ IsOutside c := by
  simp only [IsOutside, isSpace, Bool.or_eq_true, beq_iff_eq, not_or]
  exact ⟨⟨⟨⟨ne_of_isDigit h rfl, ne_of_isDigit h rfl⟩, ne_of_isDigit h rfl⟩, ne_of_isDigit h rfl⟩,
    ne_of_isDigit h rfl, ne_of_isDigit h rfl, ne_of_isDigit h rfl, ne_of_isDigit h rfl⟩

/-- A number begins with a minus or a digit. -/
theorem head_number (negative : Bool) (cs : List Char) (h : WholePart ds) :
    ∃ c rest, minus negative ++ (ds ++ cs) = c :: rest ∧ ¬ IsOutside c ∧ c ≠ '{' ∧ c ≠ '[' := by
  obtain ⟨d, ds', rfl, hd⟩ := h.digits.exists_cons
  cases negative with
  | false =>
    have hd' : d ≠ '{' ∧ d ≠ '[' := ⟨ne_of_isDigit hd rfl, ne_of_isDigit hd rfl⟩
    exact ⟨d, ds' ++ cs, rfl, not_isOutside_of_isDigit hd, hd'⟩
  | true => exact ⟨'-', d :: ds' ++ cs, rfl, by simp [IsOutside, isSpace], by decide, by decide⟩

/-- The first character of a value tells it from blanks and from what stands between values. -/
theorem SpelledBy.head {v : Value} (h : SpelledBy v cs) : ∃ c rest, cs = c :: rest ∧ ¬ IsOutside c := by
  cases v with
  | null => exact ⟨'n', _, h, by simp [IsOutside, isSpace]⟩
  | bool b =>
    cases b with
    | true => exact ⟨'t', _, h, by simp [IsOutside, isSpace]⟩
    | false => exact ⟨'f', _, h, by simp [IsOutside, isSpace]⟩
  | int n =>
    obtain ⟨negative, ds, rfl, hds, -, -⟩ := h
    obtain ⟨c, rest, heq, hc, -, -⟩ := head_number negative [] hds
    exact ⟨c, rest, by rw [← heq, List.append_nil], hc⟩
  | float x =>
    obtain ⟨negative, ds, f, fs, xs, e, rfl, hds, -⟩ := h
    obtain ⟨c, rest, heq, hc, -, -⟩ := head_number negative (f ++ xs) hds
    exact ⟨c, rest, heq, hc⟩
  | str s =>
    obtain ⟨body, rfl, -⟩ := h
    exact ⟨'"', _, rfl, by simp [IsOutside, isSpace]⟩
  | date t => exact h.elim
  | list items =>
    obtain ⟨body, rfl, -⟩ := h
    exact ⟨'[', _, rfl, by simp [IsOutside, isSpace]⟩
  | doc fields =>
    obtain ⟨-, body, rfl, -⟩ := h
    exact ⟨'{', _, rfl, by simp [IsOutside, isSpace]⟩

/-! ### Reading values -/

theorem skipSpace_append (hblank : Blank before) (hhead : ∀ c, cs.head? = some c → isSpace c = false) :
    skipSpace (before ++ cs) = cs := by
  rw [skipSpace, List.dropWhile_append_of_pos hblank]
  cases cs with
  | nil => rfl
  | cons c cs => rw [List.dropWhile_cons_of_neg (by simp [hhead c rfl])]

theorem Delimits.blank (h : Delimits rest) (hblank : Blank after) : Delimits (after ++ rest) := by
  cases after with
  | nil => exact h
  | cons c after => exact delimits_cons c _ (.inl (hblank c (by simp)))

/-- Values other than lists and documents are read at once. -/
theorem readValue_scalar (hbrace : cs.head? ≠ some '{') (hbracket : cs.head? ≠ some '[') :
    readValue (fuel + 1) cs = readScalar cs := by
  unfold readValue
  split
  · exact absurd rfl hbrace
  · exact absurd rfl hbracket
  · rfl

/-- With enough fuel the reader takes the text for the value, whatever may follow. -/
def Reads (cs : List Char) (v : Value) : Prop :=
  ∃ enough, ∀ fuel, enough ≤ fuel → ∀ rest, Delimits rest → readValue fuel (cs ++ rest) = .ok (v, rest)

/-- What is read at once needs one step. -/
theorem reads_scalar {v : Value} (hhead : ∃ c cs', cs = c :: cs' ∧ c ≠ '{' ∧ c ≠ '[')
    (h : ∀ rest, Delimits rest → readScalar (cs ++ rest) = .ok (v, rest)) : Reads cs v := by
  refine ⟨1, fun fuel hfuel rest hrest => ?_⟩
  obtain ⟨fuel, rfl⟩ := Nat.exists_eq_add_of_le' hfuel
  obtain ⟨c, cs', rfl, hbrace, hbracket⟩ := hhead
  rw [readValue_scalar (by simpa using hbrace) (by simpa using hbracket)]
  exact h rest hrest

theorem reads_int (h : Whole n cs) : Reads cs (.int n) := by
  obtain ⟨negative, ds, rfl, hds, hfits, rfl⟩ := h
  obtain ⟨c, rest, heq, -, hbrace, hbracket⟩ := head_number negative [] hds
  rw [List.append_nil] at heq
  refine reads_scalar ⟨c, rest, heq, hbrace, hbracket⟩ fun rest hrest => ?_
  rw [List.append_assoc]
  refine readScalar_number ?_ fun start => readNumber_whole hds hfits hrest
  obtain ⟨d, ds', rfl, hd⟩ := hds.digits.exists_cons
  exact ⟨d, ds' ++ rest, rfl, hd⟩

theorem reads_float (h : Real x cs) : Reads cs (.float x) := by
  obtain ⟨negative, ds, f, fs, xs, e, rfl, hds, hf, hx, hreal, rfl⟩ := h
  obtain ⟨c, rest, heq, -, hbrace, hbracket⟩ := head_number negative (f ++ xs) hds
  refine reads_scalar ⟨c, rest, heq, hbrace, hbracket⟩ fun rest hrest => ?_
  rw [List.append_assoc]
  refine readScalar_number ?_ fun start => readNumber_real hds hf hx hreal hrest
  obtain ⟨d, ds', rfl, hd⟩ := hds.digits.exists_cons
  exact ⟨d, _, rfl, hd⟩

theorem reads_str {s : String} (h : QuotedText s cs) : Reads cs (.str s) := by
  obtain ⟨body, rfl, hbody⟩ := h
  refine reads_scalar ⟨'"', body ++ ['"'], rfl, by decide, by decide⟩ fun rest hrest => ?_
  simp only [List.cons_append, List.append_assoc, List.nil_append]
  rw [readScalar, readText_characters hbody]
  rfl

section
variable {α : Type} {close : Char} {more : List Char → Result (List α)} {a : α} {as : List α}

theorem readSequel_close (hclose : isSpace close = false) (hafter : Blank after) :
    readSequel close more (a, after ++ close :: rest) = .ok ([a], rest) := by
  have hskip : skipSpace (after ++ close :: rest) = close :: rest :=
    skipSpace_append hafter (by simpa using hclose)
  rw [readSequel, hskip]
  simp

theorem readSequel_comma (hclose : close ≠ ',') (hafter : Blank after) {cs' : List Char}
    (hmore : more (skipSpace cs') = .ok (as, rest)) :
    readSequel close more (a, after ++ ',' :: cs') = .ok (a :: as, rest) := by
  have hskip : skipSpace (after ++ ',' :: cs') = ',' :: cs' := skipSpace_append hafter (by simp [isSpace])
  rw [readSequel, hskip]
  simp only [if_neg hclose.symm, if_true, hmore]
  rfl

/-- Nothing but blanks is read as nothing. -/
theorem readEnclosed_close (hclose : isSpace close = false) (hblank : Blank cs) :
    readEnclosed close more (cs ++ close :: rest) = .ok ([], rest) := by
  have hskip : skipSpace (cs ++ close :: rest) = close :: rest :=
    skipSpace_append hblank (by simpa using hclose)
  rw [readEnclosed, hskip]
  simp

theorem readEnclosed_more (hhead : ∃ c cs', skipSpace cs = c :: cs' ∧ c ≠ close) :
    readEnclosed close more cs = more (skipSpace cs) := by
  obtain ⟨c, cs', hskip, hc⟩ := hhead
  rw [readEnclosed, hskip]
  simp [hc]

end

/-- A value and the blanks around it, where something follows that ends it. -/
theorem readValue_padded {v : Value} (hbefore : Blank before) (hafter : Blank after)
    (hcore : SpelledBy v cs)
    (hread : ∀ rest, Delimits rest → readValue fuel (cs ++ rest) = .ok (v, rest)) (hrest : Delimits rest) :
    readValue fuel (skipSpace (before ++ (cs ++ after) ++ rest)) = .ok (v, after ++ rest) := by
  obtain ⟨c, cs', rfl, hc⟩ := hcore.head
  have hhead : ∀ d, (c :: cs' ++ (after ++ rest)).head? = some d → isSpace d = false := by
    intro d hd
    obtain rfl := Option.some.inj hd
    exact Bool.eq_false_iff.2 fun hspace => hc (.inl hspace)
  rw [List.append_assoc, List.append_assoc, skipSpace_append hbefore hhead]
  exact hread _ (hrest.blank hafter)

/-- The name of a field, the colon and the blanks around them, where `value` reads the rest. -/
theorem readField_padded {name : String} {front back rest' : List Char} {v : Value}
    {value : List Char → Result Value} (hfront : Padded (QuotedText name) front)
    (hvalue : value (skipSpace (back ++ rest)) = .ok (v, rest')) :
    readField value (skipSpace (front ++ ':' :: back ++ rest)) = .ok ((name, v), rest') := by
  obtain ⟨before, _, after, rfl, hbefore, hafter, body, rfl, hbody⟩ := hfront
  have hcolon : skipSpace (after ++ ':' :: (back ++ rest)) = ':' :: (back ++ rest) :=
    skipSpace_append hafter (by simp [isSpace])
  simp only [List.append_assoc, List.cons_append, List.nil_append]
  rw [skipSpace_append hbefore (by simp [isSpace]), readField, readText_characters hbody]
  simp only [Except.bind, hcolon, hvalue]
  rfl

/-- Items are read from where the first one begins, when there is one. -/
theorem readEnclosed_items {v : Value} {vs : List Value} {more : List Char → Result (List Value)}
    (h : ItemsSpelledBy (v :: vs) cs) :
    readEnclosed ']' more (cs ++ rest) = more (skipSpace (cs ++ rest)) := by
  have hpadded : ∃ before core after, cs = before ++ (core ++ after) ∧ Blank before ∧
      SpelledBy v core := by
    cases vs with
    | nil =>
      obtain ⟨before, core, after, rfl, hbefore, -, hcore⟩ := h
      exact ⟨before, core, after, rfl, hbefore, hcore⟩
    | cons w vs =>
      obtain ⟨_, rest, rfl, ⟨before, core, after, rfl, hbefore, -, hcore⟩, -⟩ := h
      exact ⟨before, core, after ++ ',' :: rest, by simp, hbefore, hcore⟩
  obtain ⟨before, core, after, rfl, hbefore, hcore⟩ := hpadded
  obtain ⟨c, cs', rfl, hc⟩ := hcore.head
  simp only [IsOutside, not_or] at hc
  refine readEnclosed_more ⟨c, cs' ++ (after ++ rest), ?_, hc.2.2.1⟩
  rw [List.append_assoc, List.append_assoc, skipSpace_append hbefore]
  · rfl
  · simpa using hc.1

/-- Fields are read from where the name of the first one begins, when there is one. -/
theorem readEnclosed_fields {field : String × Value} {fields : List (String × Value)}
    {more : List Char → Result (List (String × Value))} (h : FieldsSpelledBy (field :: fields) cs) :
    readEnclosed '}' more (cs ++ rest) = more (skipSpace (cs ++ rest)) := by
  have hpadded : ∃ before core, cs = before ++ '"' :: core ∧ Blank before := by
    cases fields with
    | nil =>
      obtain ⟨_, back, rfl, ⟨before, _, after, rfl, hbefore, -, body, rfl, -⟩, -⟩ := h
      exact ⟨before, body ++ '"' :: (after ++ ':' :: back), by simp, hbefore⟩
    | cons f fs =>
      obtain ⟨_, rest, rfl, ⟨_, back, rfl, ⟨before, _, after, rfl, hbefore, -, body, rfl, -⟩, -⟩, -⟩ := h
      exact ⟨before, body ++ '"' :: (after ++ ':' :: (back ++ ',' :: rest)), by simp, hbefore⟩
  obtain ⟨before, core, rfl, hbefore⟩ := hpadded
  refine readEnclosed_more ⟨'"', core ++ rest, ?_, by decide⟩
  rw [List.append_assoc, skipSpace_append hbefore]
  · rfl
  · simp [isSpace]

mutual

theorem reads_value {cs : List Char} (v : Value) (h : SpelledBy v cs) : Reads cs v := by
  cases v with
  | null =>
    obtain rfl : cs = _ := h
    exact reads_scalar ⟨_, _, rfl, by decide, by decide⟩ fun rest _ => rfl
  | bool b =>
    obtain rfl : cs = _ := h
    cases b with
    | true => exact reads_scalar ⟨_, _, rfl, by decide, by decide⟩ fun rest _ => rfl
    | false => exact reads_scalar ⟨_, _, rfl, by decide, by decide⟩ fun rest _ => rfl
  | int n => exact reads_int h
  | float x => exact reads_float h
  | str s => exact reads_str h
  | date t => exact h.elim
  | list items =>
    obtain ⟨body, rfl, hbody⟩ := h
    obtain ⟨enough, hread⟩ := reads_items items hbody
    refine ⟨enough + 1, fun fuel hfuel rest _ => ?_⟩
    obtain ⟨fuel, rfl⟩ := Nat.exists_eq_add_of_le' (Nat.le_of_add_left_le hfuel)
    rw [List.cons_append, readValue, hread fuel (by omega) rest]
    rfl
  | doc fields =>
    obtain ⟨hnodup, body, rfl, hbody⟩ := h
    obtain ⟨enough, hread⟩ := reads_fields fields hbody
    refine ⟨enough + 1, fun fuel hfuel rest _ => ?_⟩
    obtain ⟨fuel, rfl⟩ := Nat.exists_eq_add_of_le' (Nat.le_of_add_left_le hfuel)
    have hputAll : Assoc.putAll fields [] = fields := Assoc.putAll_of_nodup (by simpa using hnodup)
    rw [List.cons_append, readValue, hread fuel (by omega) rest]
    simp only [Except.map, hputAll]

theorem reads_items {cs : List Char} (vs : List Value) (h : ItemsSpelledBy vs cs) :
    ∃ enough, ∀ fuel, enough ≤ fuel → ∀ rest,
      readEnclosed ']' (readItems fuel) (cs ++ [']'] ++ rest) = .ok (vs, rest) := by
  match vs with
  | [] =>
    refine ⟨0, fun fuel _ rest => ?_⟩
    rw [List.append_assoc]
    exact readEnclosed_close rfl h
  | [v] =>
    obtain ⟨before, core, after, rfl, hbefore, hafter, hcore⟩ := id h
    obtain ⟨enough, hread⟩ := reads_value v hcore
    refine ⟨enough + 1, fun fuel hfuel rest => ?_⟩
    obtain ⟨fuel, rfl⟩ := Nat.exists_eq_add_of_le' (Nat.le_of_add_left_le hfuel)
    have hvalue := readValue_padded hbefore hafter hcore (hread fuel (by omega))
      (delimits_cons ']' rest (by simp))
    rw [List.append_assoc, readEnclosed_items h, List.singleton_append, readItems, hvalue]
    exact readSequel_close rfl hafter
  | v :: w :: vs =>
    obtain ⟨_, body, rfl, ⟨before, core, after, rfl, hbefore, hafter, hcore⟩, hbody⟩ := id h
    obtain ⟨enough, hread⟩ := reads_value v hcore
    -- the fuel must do for the first item and for the rest
    obtain ⟨enough', hrest⟩ := reads_items (w :: vs) hbody
    refine ⟨max enough enough' + 1, fun fuel hfuel rest => ?_⟩
    obtain ⟨fuel, rfl⟩ := Nat.exists_eq_add_of_le' (Nat.le_of_add_left_le hfuel)
    have hvalue := readValue_padded hbefore hafter hcore (hread fuel (by omega))
      (delimits_cons ',' (body ++ [']'] ++ rest) (by simp))
    have hmore := hrest fuel (by omega) rest
    rw [List.append_assoc, readEnclosed_items hbody] at hmore
    rw [List.append_assoc, readEnclosed_items h]
    simp only [List.append_assoc, List.cons_append, List.nil_append] at hvalue hmore ⊢
    rw [readItems, hvalue]
    exact readSequel_comma (by decide) hafter hmore

theorem reads_fields {cs : List Char} (fields : List (String × Value))
    (h : FieldsSpelledBy fields cs) : ∃ enough, ∀ fuel, enough ≤ fuel → ∀ rest,
      readEnclosed '}' (readFields fuel) (cs ++ ['}'] ++ rest) = .ok (fields, rest) := by
  match fields with
  | [] =>
    refine ⟨0, fun fuel _ rest => ?_⟩
    rw [List.append_assoc]
    exact readEnclosed_close rfl h
  | [(name, v)] =>
    obtain ⟨front, _, rfl, hfront, before, core, after, rfl, hbefore, hafter, hcore⟩ := id h
    obtain ⟨enough, hread⟩ := reads_value v hcore
    refine ⟨enough + 1, fun fuel hfuel rest => ?_⟩
    obtain ⟨fuel, rfl⟩ := Nat.exists_eq_add_of_le' (Nat.le_of_add_left_le hfuel)
    have hvalue := readValue_padded hbefore hafter hcore (hread fuel (by omega))
      (delimits_cons '}' rest (by simp))
    rw [List.append_assoc, readEnclosed_fields h, List.singleton_append, readFields,
      readField_padded hfront hvalue]
    exact readSequel_close rfl hafter
  | (name, v) :: field :: fields =>
    obtain ⟨_, body, rfl, ⟨front, _, rfl, hfront, hback⟩, hbody⟩ := id h
    obtain ⟨before, core, after, rfl, hbefore, hafter, hcore⟩ := hback
    obtain ⟨enough, hread⟩ := reads_value v hcore
    obtain ⟨enough', hrest⟩ := reads_fields (field :: fields) hbody
    refine ⟨max enough enough' + 1, fun fuel hfuel rest => ?_⟩
    obtain ⟨fuel, rfl⟩ := Nat.exists_eq_add_of_le' (Nat.le_of_add_left_le hfuel)
    have hvalue := readValue_padded hbefore hafter hcore (hread fuel (by omega))
      (delimits_cons ',' (body ++ ['}'] ++ rest) (by simp))
    have hfield := readField_padded hfront hvalue
    have hmore := hrest fuel (by omega) rest
    rw [List.append_assoc, readEnclosed_fields hbody] at hmore
    rw [List.append_assoc, readEnclosed_fields h]
    simp only [List.append_assoc, List.cons_append, List.nil_append] at hfield hmore ⊢
    rw [readFields, hfield]
    exact readSequel_comma (by decide) hafter hmore

end

end Bringup.Json
