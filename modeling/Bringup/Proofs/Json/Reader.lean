import Bringup.Json.Reader
import Mathlib.Data.List.Infix
import Mathlib.Data.List.TakeWhile

/-!
# What the reader of JSON takes from a text

Every part of the reader gets an end of the text and gives back a shorter end of it, so that

* a fault is said of a place of the text, and the number that is refused for its digits stands in the text
  (`Within`, `read_showsIn`);
* the fuel is never what stops it: more steps than the bound of `read` allows change nothing
  (`readValue_of_le`).
-/

namespace Bringup.Json

variable {α β : Type} {source cs ds rest start : List Char} {fuel : Nat}

/-- A run of digits that is too long for a whole number. -/
def HasLongNumber (source : List Char) (count : Nat) : Prop :=
  digitLimit < count ∧
    ∃ digits, digits <:+: source ∧ digits.length = count ∧ ∀ d ∈ digits, d.isDigit = true

/-- The text has the fault: its place is an end of the text, and a number that is too long stands in it. -/
def Fault.ShowsIn (source : List Char) : Fault → Prop
  | .malformed _ place => place <:+ source
  | .tooManyDigits count => HasLongNumber source count

/-- What a reader may give that starts at `cs`, in the text `source`: a value with a shorter end of `cs`, or a
fault that the text has. -/
inductive Within (source cs : List Char) : Result α → Prop where
  | value {a : α} {rest : List Char} :
      rest <:+ cs → rest.length < cs.length → Within source cs (.ok (a, rest))
  | fault {e : Fault} : e.ShowsIn source → Within source cs (.error e)

namespace Within

theorem map {r : Result α} (h : Within source cs r) (f : α → β) :
    Within source cs (r.map fun (a, rest) => (f a, rest)) := by
  cases h with
  | value hend hless => exact .value hend hless
  | fault he => exact .fault he

theorem mono {r : Result α} (h : Within source cs r) (hcs : cs <:+ ds) : Within source ds r := by
  cases h with
  | value hend hless => exact .value (hend.trans hcs) (Nat.lt_of_lt_of_le hless hcs.length_le)
  | fault he => exact .fault he

/-- What is read after a value stays within the text when it starts where the value ends. -/
theorem bind {r : Result α} {f : α × List Char → Result β} (h : Within source cs r)
    (hf : ∀ a rest, rest <:+ cs → Within source rest (f (a, rest))) : Within source cs (r.bind f) := by
  cases h with
  | value hend hless => exact (hf _ _ hend).mono hend
  | fault he => exact .fault he

/-- Characters are taken, and a value is given. -/
theorem taken (ts : List Char) (hts : ts ≠ []) (a : α) :
    Within source (ts ++ rest) (.ok (a, rest)) := by
  refine .value (List.suffix_append ts rest) ?_
  have := List.length_pos_of_ne_nil hts
  rw [List.length_append]
  omega

/-- A fault shows after some characters. -/
theorem fail (ts : List Char) (h : ts ++ rest <:+ source) (kind : FaultKind) :
    Within source cs (Json.fail kind rest : Result α) :=
  .fault ((List.suffix_append ts rest).trans h)

/-- Characters are taken for one character of a text. -/
theorem cons {r : Result (List Char)} (ts : List Char) (h : ts ++ rest <:+ source)
    (hr : rest <:+ source → Within source rest r) (c : Char) :
    Within source (ts ++ rest) (Json.cons c r) :=
  have hrest := List.suffix_append ts rest
  ((hr (hrest.trans h)).map (c :: ·)).mono hrest

theorem bind_congr {r : Result α} {f g : α × List Char → Result β} (h : Within source cs r)
    (hfg : ∀ a rest, rest.length < cs.length → f (a, rest) = g (a, rest)) : r.bind f = r.bind g := by
  cases h with
  | value _ hless => exact hfg _ _ hless
  | fault _ => rfl

end Within

theorem skipSpace_suffix (cs : List Char) : skipSpace cs <:+ cs := List.dropWhile_suffix _

/-! ### Texts and numbers

The equations of `readChars` say what one step reads, each with what it needs of the text that follows. -/

section
variable {opening : List Char} {a b c d e f g k : Char} {n low high : Nat}

attribute [local simp] readChars

theorem readChars_plain (hquote : c ≠ '"') (hback : c ≠ '\\') (hcontrol : ¬ c.toNat < 0x20) :
    readChars opening (c :: rest) = cons c (readChars opening rest) := by
  simp [hback, hcontrol]

theorem readChars_escape (hescape : escape? c = some e) :
    readChars opening ('\\' :: c :: rest) = cons e (readChars opening rest) := by
  have hu : c ≠ 'u' := by
    rintro rfl
    cases hescape
  simp [hu, hescape]

theorem readChars_unit (hcode : codeUnit? a b c d = some n) (hrest : rest ≠ [])
    (hhigh : isHigh n = false) :
    readChars opening ('\\' :: 'u' :: a :: b :: c :: d :: rest) =
      cons (unitChar n) (readChars opening rest) := by
  simp [hcode, hrest, hhigh]

theorem readChars_pair (hcode : codeUnit? a b c d = some high) (hhigh : isHigh high = true)
    (hcode' : codeUnit? e f g k = some low) (hrest : rest ≠ []) :
    readChars opening ('\\' :: 'u' :: a :: b :: c :: d :: '\\' :: 'u' :: e :: f :: g :: k :: rest) =
      if isLow low then cons (pairChar high low) (readChars opening rest)
      else cons (unitChar high) (readChars opening ('\\' :: 'u' :: e :: f :: g :: k :: rest)) := by
  obtain ⟨i, after, rfl⟩ := List.exists_cons_of_ne_nil hrest
  rw [readChars]
  simp only [hcode, hhigh, hcode', List.isEmpty_cons]
  rfl

theorem readChars_lone (hcode : codeUnit? a b c d = some high) (hhigh : isHigh high = true)
    (hrest : rest ≠ [])
    (hlone : ∀ e f g k i after, rest ≠ '\\' :: 'u' :: e :: f :: g :: k :: i :: after) :
    readChars opening ('\\' :: 'u' :: a :: b :: c :: d :: rest) =
      cons (unitChar high) (readChars opening rest) := by
  simp [hcode, hrest, hhigh]

/-- No escape of a code unit is read where the text ends with its digits or before. -/
theorem readChars_cut_unit (opening : List Char) (hrest : rest.length ≤ 4) :
    ∃ e, readChars opening ('\\' :: 'u' :: rest) = .error e := by
  match rest, hrest with
  | [], _ | [_], _ | [_, _], _ | [_, _, _], _ => exact ⟨_, rfl⟩
  | [a, b, c, d], _ =>
    simp only [readChars]
    split
    · exact ⟨_, rfl⟩
    · exact ⟨_, rfl⟩

end

theorem readChars_within {opening : List Char} (hopening : opening <:+ source) (h : cs <:+ source) :
    Within source cs (readChars opening cs) := by
  fun_induction readChars opening cs with
  | case1 => exact .fail [] hopening _
  | case2 => exact .taken ['"'] (by simp) _
  | case3 => exact .fail ['\\'] h _
  | case4 a b c d rest _ _ hrest =>
    rw [List.isEmpty_iff.1 hrest] at h
    exact .fail ['\\'] h _
  | case5 a b c d rest _ _ _ _ ih => exact .cons ['\\', 'u', a, b, c, d] h ih _
  | case6 a b c d => exact .fail ['\\', 'u', a, b, c, d, '\\'] h _
  | case7 a b c d _ _ _ e f g i _ _ _ _ _ _ ih =>
    exact .cons ['\\', 'u', a, b, c, d, '\\', 'u', e, f, g, i] h ih _
  | case8 a b c d _ _ _ _ _ _ _ _ _ _ _ _ _ ih => exact .cons ['\\', 'u', a, b, c, d] h ih _
  | case9 a b c d _ _ _ _ _ _ ih => exact .cons ['\\', 'u', a, b, c, d] h ih _
  | case10 => exact .fail ['\\'] h _
  | case11 => exact .fail [] hopening _
  | case12 c _ _ _ _ _ ih => exact .cons ['\\', c] h ih _
  | case13 => exact .fail [] h _
  | case14 => exact .fail [] h _
  | case15 c _ _ _ _ _ _ _ ih => exact .cons [c] h ih _

theorem readText_within (h : '"' :: rest <:+ source) : Within source rest (readText rest) :=
  (readChars_within h ((List.suffix_cons ..).trans h)).map String.ofList

/-- The digits at the start of a text end with the text, or before a character that is no digit. -/
theorem spanDigits_eq_iff {digits : List Char} :
    spanDigits cs = (digits, rest) ↔
      digits ++ rest = cs ∧ (∀ d ∈ digits, d.isDigit = true) ∧
        ∀ c, rest.head? = some c → c.isDigit = false := by
  rw [spanDigits, List.span_eq_takeWhile_dropWhile]
  constructor
  · intro h
    obtain ⟨rfl, rfl⟩ := Prod.mk.inj h
    refine ⟨List.takeWhile_append_dropWhile, fun d hd => List.mem_takeWhile_imp hd, fun c hc => ?_⟩
    simpa [hc] using List.head?_dropWhile_not Char.isDigit cs
  · rintro ⟨rfl, hall, hend⟩
    rw [List.takeWhile_append_of_pos hall, List.dropWhile_append_of_pos hall]
    cases rest with
    | nil => simp
    | cons c rest => simp [hend c rfl]

theorem wholePart?_eq_some {whole : List Char} (h : wholePart? cs = some (whole, rest)) :
    whole ++ rest = cs ∧ whole ≠ [] ∧ ∀ d ∈ whole, d.isDigit = true := by
  revert h
  fun_cases wholePart? cs with
  | case1 =>
    intro h
    obtain ⟨rfl, rfl⟩ := Prod.mk.inj (Option.some.inj h)
    exact ⟨rfl, by simp, by simp⟩
  | case2 => exact nofun
  | case3 _ _ digits rest' hspan hdigits =>
    intro h
    obtain ⟨rfl, rfl⟩ := Prod.mk.inj (Option.some.inj h)
    obtain ⟨hcs, hall, -⟩ := spanDigits_eq_iff.1 hspan
    exact ⟨hcs, fun hnone => hdigits (List.isEmpty_iff.2 hnone), hall⟩

theorem splitSign_suffix (cs : List Char) : (splitSign cs).2 <:+ cs := by
  fun_cases splitSign cs with
  | case1 => exact List.suffix_cons ..
  | case2 => exact List.suffix_cons ..
  | case3 => exact List.suffix_refl _

theorem fractionPart_suffix (cs : List Char) : (fractionPart cs).2 <:+ cs := by
  fun_cases fractionPart cs with
  | case1 => exact List.suffix_refl _
  | case2 cs digits rest hspan =>
    rw [← (spanDigits_eq_iff.1 hspan).1]
    exact (List.suffix_append ..).trans (List.suffix_cons ..)
  | case3 => exact List.suffix_refl _

theorem exponentPart_suffix (cs : List Char) : (exponentPart cs).2 <:+ cs := by
  fun_cases exponentPart cs with
  | case1 => exact List.suffix_refl _
  | case2 c after _ negative signed hsign digits rest hspan =>
    have hsigned : signed <:+ after := by simpa [hsign] using splitSign_suffix after
    rw [← (spanDigits_eq_iff.1 hspan).1] at hsigned
    exact ((List.suffix_append ..).trans hsigned).trans (List.suffix_cons ..)
  | case3 => exact List.suffix_refl _
  | case4 => exact List.suffix_refl _

/-- A number takes at least its whole part. -/
theorem number_within {whole after fraction after' : List Char} {exponent? : Option Int}
    (hwhole : wholePart? cs = some (whole, after)) (hfraction : fractionPart after = (fraction, after'))
    (hexponent : exponentPart after' = (exponent?, rest)) (v : Value) :
    Within source cs (.ok (v, rest)) := by
  obtain ⟨rfl, hne, -⟩ := wholePart?_eq_some hwhole
  have hrest : rest <:+ after := by
    have hafter := fractionPart_suffix after
    have hafter' := exponentPart_suffix after'
    rw [hfraction] at hafter
    rw [hexponent] at hafter'
    exact hafter'.trans hafter
  refine .value (hrest.trans (List.suffix_append ..)) ?_
  have := hrest.length_le
  have := List.length_pos_of_ne_nil hne
  rw [List.length_append]
  omega

theorem readNumber_within (hstart : start <:+ source) (hcs : cs <:+ source) (negative : Bool) :
    Within source cs (readNumber start negative cs) := by
  fun_cases readNumber start negative cs with
  | case1 => exact .fail [] hstart _
  | case2 whole after hwhole _ _ _ _ _ _ _ hlong =>
    obtain ⟨rfl, -, hdigits⟩ := wholePart?_eq_some hwhole
    exact .fault ⟨hlong, whole, (List.prefix_append ..).isInfix.trans hcs.isInfix, rfl, hdigits⟩
  | case3 _ _ hwhole _ _ hfraction _ _ hexponent => exact number_within hwhole hfraction hexponent _
  | case4 _ _ hwhole _ _ hfraction _ _ hexponent => exact number_within hwhole hfraction hexponent _

/-! ### Values -/

theorem readScalar_digit (hc : c.isDigit = true) :
    readScalar (c :: cs) = readNumber (c :: cs) false (c :: cs) := by
  unfold readScalar
  split
  case h_9 => rfl
  all_goals
    rename_i heq
    obtain ⟨rfl, -⟩ := List.cons.inj heq
    cases hc

theorem exists_digit_of_readNumber {negative : Bool} {v : Value × List Char}
    (h : readNumber start negative cs = .ok v) : ∃ d cs', cs = d :: cs' ∧ d.isDigit = true := by
  unfold readNumber at h
  split at h
  · cases h
  · rename_i hwhole
    obtain ⟨rfl, hne, hdigits⟩ := wholePart?_eq_some hwhole
    obtain ⟨d, whole, rfl⟩ := List.exists_cons_of_ne_nil hne
    exact ⟨d, _, rfl, hdigits d (by simp)⟩

theorem readScalar_within (h : cs <:+ source) : Within source cs (readScalar cs) := by
  fun_cases readScalar cs with
  | case1 rest => exact ((readText_within h).map Value.str).mono (List.suffix_cons ..)
  | case2 => exact .taken ['n', 'u', 'l', 'l'] (by simp) _
  | case3 => exact .taken ['t', 'r', 'u', 'e'] (by simp) _
  | case4 => exact .taken ['f', 'a', 'l', 's', 'e'] (by simp) _
  | case5 => exact .taken ['N', 'a', 'N'] (by simp) _
  | case6 => exact .taken ['I', 'n', 'f', 'i', 'n', 'i', 't', 'y'] (by simp) _
  | case7 => exact .taken ['-', 'I', 'n', 'f', 'i', 'n', 'i', 't', 'y'] (by simp) _
  | case8 rest =>
    exact (readNumber_within h ((List.suffix_cons ..).trans h) true).mono (List.suffix_cons ..)
  | case9 => exact readNumber_within h h false

section
variable {close : Char} {more more' : List Char → Result (List α)}
  {value value' : List Char → Result Value}

theorem readEnclosed_within (hmore : ∀ ds, ds <:+ source → Within source ds (more ds))
    (h : cs <:+ source) : Within source cs (readEnclosed close more cs) := by
  refine Within.mono ?_ (skipSpace_suffix cs)
  have hspace := (skipSpace_suffix cs).trans h
  unfold readEnclosed
  generalize skipSpace cs = ds at hspace ⊢
  cases ds with
  | nil => exact hmore [] hspace
  | cons c rest =>
    simp only
    split
    · exact .taken [c] (by simp) []
    · exact hmore _ hspace

theorem readSequel_within (hmore : ∀ ds, ds <:+ source → Within source ds (more ds)) (a : α)
    (h : cs <:+ source) : Within source cs (readSequel close more (a, cs)) := by
  refine Within.mono ?_ (skipSpace_suffix cs)
  have hspace := (skipSpace_suffix cs).trans h
  simp only [readSequel]
  generalize skipSpace cs = ds at hspace ⊢
  cases ds with
  | nil => exact .fail [] hspace _
  | cons c rest =>
    have hrest : skipSpace rest <:+ c :: rest := (skipSpace_suffix rest).trans (List.suffix_cons c rest)
    simp only
    split
    · exact .taken [c] (by simp) [a]
    split
    · exact ((hmore _ (hrest.trans hspace)).map (a :: ·)).mono hrest
    · exact .fail [] hspace _

theorem readField_within (hvalue : ∀ ds, ds <:+ source → Within source ds (value ds))
    (h : cs <:+ source) : Within source cs (readField value cs) := by
  unfold readField
  split
  · rename_i rest
    refine Within.mono ((readText_within h).bind fun name after hafter => ?_) (List.suffix_cons _ rest)
    refine Within.mono ?_ (skipSpace_suffix after)
    have hspace := ((skipSpace_suffix after).trans hafter).trans ((List.suffix_cons _ rest).trans h)
    simp only
    generalize skipSpace after = ds at hspace ⊢
    split
    · rename_i rest'
      have hrest' : skipSpace rest' <:+ ':' :: rest' :=
        (skipSpace_suffix rest').trans (List.suffix_cons ..)
      exact ((hvalue _ (hrest'.trans hspace)).map (name, ·)).mono hrest'
    · exact .fail [] hspace _
  · exact .fail [] h _

theorem readEnclosed_congr (h : ∀ ds, ds.length ≤ cs.length → more ds = more' ds) :
    readEnclosed close more cs = readEnclosed close more' cs := by
  have hspace := (skipSpace_suffix cs).length_le
  unfold readEnclosed
  generalize skipSpace cs = ds at hspace ⊢
  cases ds with
  | nil => exact h [] hspace
  | cons c rest => simp only [h _ hspace]

theorem readSequel_congr (h : ∀ ds, ds.length < cs.length → more ds = more' ds) (a : α) :
    readSequel close more (a, cs) = readSequel close more' (a, cs) := by
  have hspace := (skipSpace_suffix cs).length_le
  simp only [readSequel]
  generalize skipSpace cs = ds at hspace ⊢
  cases ds with
  | nil => rfl
  | cons c rest =>
    have hrest := (skipSpace_suffix rest).length_le
    rw [List.length_cons] at hspace
    simp only [h (skipSpace rest) (by omega)]

theorem readField_congr (h : ∀ ds, ds.length < cs.length → value ds = value' ds) :
    readField value cs = readField value' cs := by
  unfold readField
  split
  · rename_i rest
    rw [List.length_cons] at h
    have hname := readText_within (List.suffix_refl ('"' :: rest))
    generalize readText rest = name at hname ⊢
    cases hname with
    | @value name after _ hless =>
      have hspace := (skipSpace_suffix after).length_le
      simp only [Except.bind]
      generalize skipSpace after = ds at hspace ⊢
      split
      · rename_i rest'
        have hrest' := (skipSpace_suffix rest').length_le
        rw [List.length_cons] at hspace
        simp only [h (skipSpace rest') (by omega)]
      · rfl
    | fault _ => rfl
  · rfl

end

theorem readers_within (fuel : Nat) :
    (∀ cs, cs <:+ source → Within source cs (readValue fuel cs)) ∧
      (∀ cs, cs <:+ source → Within source cs (readItems fuel cs)) ∧
      ∀ cs, cs <:+ source → Within source cs (readFields fuel cs) := by
  -- on the fuel, for the three readers at once, as they call each other
  induction fuel with
  | zero =>
    exact ⟨fun cs h => .fail [] h _, fun cs h => .fail [] h _, fun cs h => .fail [] h _⟩
  | succ fuel ih =>
    obtain ⟨hvalue, hitems, hfields⟩ := ih
    refine ⟨fun cs h => ?_, fun cs h => ?_, fun cs h => ?_⟩
    · unfold readValue
      split
      · rename_i rest
        exact ((readEnclosed_within hfields ((List.suffix_cons ..).trans h)).map
          fun fields => Value.doc (Assoc.putAll fields [])).mono (List.suffix_cons ..)
      · rename_i rest
        exact ((readEnclosed_within hitems ((List.suffix_cons ..).trans h)).map Value.list).mono
          (List.suffix_cons ..)
      · exact readScalar_within h
    · exact (hvalue cs h).bind fun v rest hrest => readSequel_within hitems v (hrest.trans h)
    · exact (readField_within hvalue h).bind fun f rest hrest =>
        readSequel_within hfields f (hrest.trans h)

/-- One step more changes nothing once there are two for each character.  A list takes two steps to get to
its first item, so items and fields have one more to spare than values. -/
theorem readers_stable (fuel : Nat) :
    (∀ cs, 2 * cs.length + 1 ≤ fuel → readValue (fuel + 1) cs = readValue fuel cs) ∧
      (∀ cs, 2 * cs.length + 2 ≤ fuel → readItems (fuel + 1) cs = readItems fuel cs) ∧
      ∀ cs, 2 * cs.length + 2 ≤ fuel → readFields (fuel + 1) cs = readFields fuel cs := by
  induction fuel with
  | zero => exact ⟨fun _ h => by omega, fun _ h => by omega, fun _ h => by omega⟩
  | succ fuel ih =>
    obtain ⟨hvalue, hitems, hfields⟩ := ih
    refine ⟨fun cs h => ?_, fun cs h => ?_, fun cs h => ?_⟩
    · unfold readValue
      split
      · rename_i rest
        rw [List.length_cons] at h
        simp only
        rw [readEnclosed_congr fun ds hds => hfields ds (by omega)]
      · rename_i rest
        rw [List.length_cons] at h
        simp only
        rw [readEnclosed_congr fun ds hds => hitems ds (by omega)]
      · rfl
    · unfold readItems
      rw [hvalue cs (by omega)]
      refine ((readers_within fuel).1 cs (List.suffix_refl cs)).bind_congr fun v rest hless => ?_
      exact readSequel_congr (fun ds hds => hitems ds (by omega)) v
    · unfold readFields
      rw [readField_congr fun ds hds => hvalue ds (by omega)]
      have hfield := readField_within (readers_within fuel).1 (List.suffix_refl cs)
      refine hfield.bind_congr fun f rest hless => ?_
      exact readSequel_congr (fun ds hds => hfields ds (by omega)) f

/-- The bound of `read` is enough: with more fuel a value is read the same way. -/
theorem readValue_of_le (h : 2 * cs.length + 1 ≤ fuel) :
    readValue fuel cs = readValue (2 * cs.length + 1) cs := by
  induction fuel, h using Nat.le_induction with
  | base => rfl
  | succ fuel hle ih => rw [(readers_stable fuel).1 cs hle, ih]

/-! ### Whole texts -/

/-- A text that is refused has the fault that is told. -/
theorem read_showsIn {e : Fault} (h : read cs = .error e) : e.ShowsIn cs := by
  unfold read at h
  split at h
  · obtain rfl := Except.error.inj h
    exact List.suffix_refl cs
  have hspace := skipSpace_suffix cs
  have hvalue := (readers_within (2 * cs.length + 1)).1 (skipSpace cs) hspace
  generalize readValue (2 * cs.length + 1) (skipSpace cs) = r at hvalue h
  cases hvalue with
  | @value v rest hend _ =>
    simp only at h
    split at h
    · cases h
    · obtain rfl := Except.error.inj h
      exact (skipSpace_suffix rest).trans (hend.trans hspace)
  | fault he =>
    obtain rfl := Except.error.inj h
    exact he

end Bringup.Json
