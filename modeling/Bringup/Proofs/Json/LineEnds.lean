import Bringup.Failure.Basic
import Bringup.Proofs.Json.Reader
import Bringup.Proofs.Text.Lines

/-!
# JSON is read alike however its lines end

`read_normalizeNewlines` : a text spells a value just when it does so with line feeds for line ends.

Line ends stand between the parts of a value and never within one: a text in quotes refuses them, and no
number or word holds them.  So each part of the reader, given two texts that differ in their line ends, reads
one value from both and leaves two such texts behind (`Follows`).  One direction is enough, since `SameLines`
is symmetric.
-/

namespace Bringup.Json

variable {α β : Type} {cs ds rest start start' opening opening' : List Char} {c : Char} {fuel : Nat}

/-- A value that the one reading gives is given by the other, and what is left differs in its line ends
alone. -/
def Follows (r r' : Result α) : Prop :=
  ∀ a rest, r = .ok (a, rest) → ∃ rest', r' = .ok (a, rest') ∧ SameLines rest rest'

namespace Follows

theorem ok {a : α} {rest rest' : List Char} (h : SameLines rest rest') :
    Follows (.ok (a, rest)) (.ok (a, rest')) := by
  rintro b rest heq
  obtain ⟨rfl, rfl⟩ := Prod.mk.inj (Except.ok.inj heq)
  exact ⟨rest', rfl, h⟩

theorem error {e : Fault} {r : Result α} : Follows (.error e) r := nofun

theorem fail {kind : FaultKind} {r : Result α} : Follows (Json.fail kind rest) r := nofun

theorem map {r r' : Result α} (h : Follows r r') (f : α → β) :
    Follows (r.map fun (a, rest) => (f a, rest)) (r'.map fun (a, rest) => (f a, rest)) := by
  intro b rest heq
  obtain ⟨⟨a, rest⟩, hr, hab⟩ := exists_of_map_eq_ok heq
  obtain ⟨rfl, rfl⟩ := Prod.mk.inj hab
  obtain ⟨rest', hr', hsame⟩ := h a rest hr
  exact ⟨rest', by rw [hr']; rfl, hsame⟩

theorem bind {r r' : Result α} {f f' : α × List Char → Result β} (h : Follows r r')
    (hf : ∀ a rest rest', SameLines rest rest' → Follows (f (a, rest)) (f' (a, rest'))) :
    Follows (r.bind f) (r'.bind f') := by
  intro b rest heq
  obtain ⟨⟨a, rest⟩, hr, hab⟩ := exists_of_bind_eq_ok heq
  obtain ⟨rest', hr', hsame⟩ := h a rest hr
  obtain ⟨after, hf', hafter⟩ := hf a rest rest' hsame b _ hab
  exact ⟨after, by rw [hr']; exact hf', hafter⟩

end Follows

theorem isPlain_of_hexValue {n : Nat} (h : hexValue? c = some n) : IsPlain c :=
  .of_holds (p := (hexValue? · = some n)) h (fun h => by cases h) fun h => by cases h

theorem isPlain_of_escape {e : Char} (h : escape? c = some e) : IsPlain c :=
  .of_holds (p := (escape? · = some e)) h (fun h => by cases h) fun h => by cases h

theorem isPlain_of_codeUnit {a b c d : Char} {n : Nat} (h : codeUnit? a b c d = some n) :
    ∀ x ∈ [a, b, c, d], IsPlain x := by
  obtain ⟨_, ha, h⟩ := Option.bind_eq_some_iff.1 h
  obtain ⟨_, hb, h⟩ := Option.bind_eq_some_iff.1 h
  obtain ⟨_, hc, h⟩ := Option.bind_eq_some_iff.1 h
  obtain ⟨_, hd, -⟩ := Option.bind_eq_some_iff.1 h
  simp only [List.forall_mem_cons, List.not_mem_nil, false_imp_iff, implies_true, and_true]
  exact ⟨isPlain_of_hexValue ha, isPlain_of_hexValue hb, isPlain_of_hexValue hc,
    isPlain_of_hexValue hd⟩

/-! ### Texts -/

section
variable {a b c d e f g k : Char} {n low high : Nat}

theorem exists_of_sameLines_unit (hcode : codeUnit? a b c d = some n)
    (h : SameLines ('\\' :: 'u' :: a :: b :: c :: d :: rest) ds) :
    ∃ rest', ds = '\\' :: 'u' :: a :: b :: c :: d :: rest' ∧ SameLines rest rest' := by
  obtain ⟨ds, rfl, hu⟩ := h.cons (by decide)
  obtain ⟨ds, rfl, hdigits⟩ := hu.cons (by decide)
  obtain ⟨ds, rfl, hrest⟩ := hdigits.append [a, b, c, d] (isPlain_of_codeUnit hcode)
  exact ⟨ds, rfl, hrest⟩

/-- Half a pair that stands alone in the one text stands alone in the other, or the one text is refused after
it: a line end of two characters can make that text the shorter one. -/
theorem lone_follows (hcode : codeUnit? a b c d = some high) (hhigh : isHigh high = true)
    (hrest : rest ≠ [])
    (hlone : ∀ e f g k i after, rest ≠ '\\' :: 'u' :: e :: f :: g :: k :: i :: after)
    (h : SameLines rest ds) (ih : Follows (readChars opening rest) (readChars opening' ds)) :
    Follows (cons (unitChar high) (readChars opening rest))
      (readChars opening' ('\\' :: 'u' :: a :: b :: c :: d :: ds)) := by
  by_cases hpair : ∃ e f g k i after, ds = '\\' :: 'u' :: e :: f :: g :: k :: i :: after
  · obtain ⟨e, f, g, k, i, after, rfl⟩ := hpair
    obtain ⟨rest, rfl, hu⟩ := h.symm.cons (by decide)
    obtain ⟨rest, rfl, -⟩ := hu.cons (by decide)
    have hshort : rest.length ≤ 4 := by
      match rest, hlone with
      | [], _ | [_], _ | [_, _], _ | [_, _, _], _ | [_, _, _, _], _ => simp
      | e :: f :: g :: k :: i :: after, hlone => exact (hlone e f g k i after rfl).elim
    obtain ⟨e, he⟩ := readChars_cut_unit opening hshort
    rw [he]
    exact .error
  · rw [readChars_lone hcode hhigh (h.ne_nil hrest)
      fun e f g k i after heq => hpair ⟨e, f, g, k, i, after, heq⟩]
    exact ih.map _

end

theorem readChars_follows (h : SameLines cs ds) :
    Follows (readChars opening cs) (readChars opening' ds) := by
  -- the cases are those of the reader; one that fails leaves nothing to follow
  fun_induction readChars opening cs generalizing ds with
  | case1 => exact .fail
  | case2 rest =>
    obtain ⟨ds, rfl, hrest⟩ := h.cons (by decide)
    simp only [readChars]
    exact .ok hrest
  | case3 => exact .fail
  | case4 => exact .fail
  | case5 a b c d rest high hcode hne hhigh ih =>
    obtain ⟨ds, rfl, hrest⟩ := exists_of_sameLines_unit hcode h
    rw [List.isEmpty_iff] at hne
    rw [readChars_unit hcode (hrest.ne_nil hne) (by simpa using hhigh)]
    exact (ih hrest).map _
  | case6 => exact .fail
  | case7 a b c d high hcode hhigh e f g k i after low hlow his hne ih =>
    obtain ⟨ds, rfl, hpair⟩ := exists_of_sameLines_unit hcode h
    obtain ⟨ds, rfl, hrest⟩ := exists_of_sameLines_unit hlow hpair
    rw [readChars_pair hcode (by simpa using hhigh) hlow (hrest.ne_nil (by simp)), if_pos his]
    exact (ih hrest).map _
  | case8 a b c d high hcode hhigh e f g k i after low hlow his hne ih =>
    obtain ⟨ds, rfl, hpair⟩ := exists_of_sameLines_unit hcode h
    have ih := ih hpair
    obtain ⟨ds, rfl, hrest⟩ := exists_of_sameLines_unit hlow hpair
    rw [readChars_pair hcode (by simpa using hhigh) hlow (hrest.ne_nil (by simp)), if_neg his]
    exact ih.map _
  | case9 a b c d high hcode hhigh rest hlone hne ih =>
    obtain ⟨ds, rfl, hrest⟩ := exists_of_sameLines_unit hcode h
    rw [List.isEmpty_iff] at hne
    exact lone_follows hcode (by simpa using hhigh) hne
      hlone hrest (ih hrest)
  | case10 => exact .fail
  | case11 => exact .fail
  | case12 c rest hu hu' e hescape ih =>
    obtain ⟨ds, rfl, hc⟩ := h.cons (by decide)
    obtain ⟨ds, rfl, hrest⟩ := hc.cons (isPlain_of_escape hescape)
    rw [readChars_escape hescape]
    exact (ih hrest).map _
  | case13 => exact .fail
  | case14 => exact .fail
  | case15 c rest hquote _ _ hend hback hcontrol ih =>
    have hplain : IsPlain c := .of_holds (p := (¬ ·.toNat < 0x20)) hcontrol (by decide) (by decide)
    have hc : c ≠ '\\' := by
      intro hc
      cases rest with
      | nil => exact hend hc rfl
      | cons d rest => exact hback d rest hc rfl
    obtain ⟨ds, rfl, hrest⟩ := h.cons hplain
    rw [readChars_plain hquote hc hcontrol]
    exact (ih hrest).map _

theorem readText_follows (h : SameLines cs ds) : Follows (readText cs) (readText ds) :=
  (readChars_follows h).map String.ofList

/-! ### Numbers -/

theorem isPlain_of_isDigit (h : c.isDigit = true) : IsPlain c :=
  .of_holds (p := (·.isDigit = true)) h (by decide) (by decide)

theorem spanDigits_follows {digits : List Char} (h : SameLines cs ds)
    (hcs : spanDigits cs = (digits, rest)) :
    ∃ rest', spanDigits ds = (digits, rest') ∧ SameLines rest rest' := by
  obtain ⟨rfl, hdigits, hend⟩ := spanDigits_eq_iff.1 hcs
  obtain ⟨rest', rfl, hrest⟩ := h.append digits fun d hd => isPlain_of_isDigit (hdigits d hd)
  refine ⟨rest', spanDigits_eq_iff.2 ⟨rfl, hdigits, fun c hc => ?_⟩, hrest⟩
  by_contra hdigit
  rw [Bool.not_eq_false] at hdigit
  exact absurd (hend c ((hrest.head? (isPlain_of_isDigit hdigit)).2 hc)) (by simp [hdigit])

theorem wholePart?_follows {whole : List Char} (h : SameLines cs ds)
    (hcs : wholePart? cs = some (whole, rest)) :
    ∃ rest', wholePart? ds = some (whole, rest') ∧ SameLines rest rest' := by
  revert hcs
  fun_cases wholePart? cs with
  | case1 =>
    intro hcs
    obtain ⟨rfl, rfl⟩ := Prod.mk.inj (Option.some.inj hcs)
    obtain ⟨ds, rfl, hrest⟩ := h.cons (by decide)
    exact ⟨ds, rfl, hrest⟩
  | case2 => exact fun hcs => by cases hcs
  | case3 _ hzero digits rest hspan hdigits =>
    intro hcs
    obtain ⟨rfl, rfl⟩ := Prod.mk.inj (Option.some.inj hcs)
    obtain ⟨rest', hspan', hrest⟩ := spanDigits_follows h hspan
    refine ⟨rest', ?_, hrest⟩
    unfold wholePart?
    split
    · obtain ⟨cs, rfl, -⟩ := h.symm.cons (by decide)
      exact (hzero cs rfl).elim
    · simp [hspan', hdigits]

theorem splitSign_follows {negative : Bool} (h : SameLines cs ds)
    (hcs : splitSign cs = (negative, rest)) :
    ∃ rest', splitSign ds = (negative, rest') ∧ SameLines rest rest' := by
  revert hcs
  fun_cases splitSign cs with
  | case1 =>
    rintro hcs
    obtain ⟨rfl, rfl⟩ := Prod.mk.inj hcs
    obtain ⟨ds, rfl, hrest⟩ := h.cons (by decide)
    exact ⟨ds, rfl, hrest⟩
  | case2 =>
    rintro hcs
    obtain ⟨rfl, rfl⟩ := Prod.mk.inj hcs
    obtain ⟨ds, rfl, hrest⟩ := h.cons (by decide)
    exact ⟨ds, rfl, hrest⟩
  | case3 _ hminus hplus =>
    rintro hcs
    obtain ⟨rfl, rfl⟩ := Prod.mk.inj hcs
    refine ⟨ds, ?_, h⟩
    unfold splitSign
    split
    · obtain ⟨cs, rfl, -⟩ := h.symm.cons (by decide)
      exact (hminus cs rfl).elim
    · obtain ⟨cs, rfl, -⟩ := h.symm.cons (by decide)
      exact (hplus cs rfl).elim
    · rfl

theorem fractionPart_follows {fraction : List Char} (h : SameLines cs ds)
    (hcs : fractionPart cs = (fraction, rest)) :
    ∃ rest', fractionPart ds = (fraction, rest') ∧ SameLines rest rest' := by
  revert hcs
  fun_cases fractionPart cs with
  | case1 cs digits after hspan hdigits =>
    rintro hcs
    obtain ⟨rfl, rfl⟩ := Prod.mk.inj hcs
    obtain ⟨ds, rfl, htail⟩ := h.cons (by decide)
    obtain ⟨after', hspan', -⟩ := spanDigits_follows htail hspan
    exact ⟨'.' :: ds, by simp [fractionPart, hspan', hdigits], h⟩
  | case2 cs digits after hspan hdigits =>
    rintro hcs
    obtain ⟨rfl, rfl⟩ := Prod.mk.inj hcs
    obtain ⟨ds, rfl, htail⟩ := h.cons (by decide)
    obtain ⟨after', hspan', hafter⟩ := spanDigits_follows htail hspan
    exact ⟨after', by simp [fractionPart, hspan', hdigits], hafter⟩
  | case3 _ hpoint =>
    rintro hcs
    obtain ⟨rfl, rfl⟩ := Prod.mk.inj hcs
    refine ⟨ds, ?_, h⟩
    unfold fractionPart
    split
    · obtain ⟨cs, rfl, -⟩ := h.symm.cons (by decide)
      exact (hpoint cs rfl).elim
    · rfl

theorem exponentPart_follows {exponent? : Option Int} (h : SameLines cs ds)
    (hcs : exponentPart cs = (exponent?, rest)) :
    ∃ rest', exponentPart ds = (exponent?, rest') ∧ SameLines rest rest' := by
  have isPlain {c : Char} (hletter : c = 'e' ∨ c = 'E') : IsPlain c := by
    rcases hletter with rfl | rfl <;> decide
  revert hcs
  fun_cases exponentPart cs with
  | case1 c after hletter negative signed hsign digits rest hspan hdigits =>
    intro hcs
    obtain ⟨rfl, rfl⟩ := Prod.mk.inj hcs
    obtain ⟨ds, rfl, hafter⟩ := h.cons (isPlain hletter)
    obtain ⟨signed', hsign', hsigned⟩ := splitSign_follows hafter hsign
    obtain ⟨rest', hspan', -⟩ := spanDigits_follows hsigned hspan
    exact ⟨c :: ds, by simp [exponentPart, hletter, hsign', hspan', hdigits], h⟩
  | case2 c after hletter negative signed hsign digits rest hspan hdigits =>
    intro hcs
    obtain ⟨rfl, rfl⟩ := Prod.mk.inj hcs
    obtain ⟨ds, rfl, hafter⟩ := h.cons (isPlain hletter)
    obtain ⟨signed', hsign', hsigned⟩ := splitSign_follows hafter hsign
    obtain ⟨rest', hspan', hrest⟩ := spanDigits_follows hsigned hspan
    refine ⟨rest', ?_, hrest⟩
    simp only [exponentPart, if_pos hletter, hsign', hspan', hdigits]
    rfl
  | case3 c after hletter =>
    intro hcs
    obtain ⟨rfl, rfl⟩ := Prod.mk.inj hcs
    refine ⟨ds, ?_, h⟩
    -- no exponent begins here: nor does one in the other text, as both begin alike
    cases ds with
    | nil => rfl
    | cons d ds =>
      have hd : ¬ (d = 'e' ∨ d = 'E') := by
        intro hd
        obtain ⟨_, heq, -⟩ := h.symm.cons (isPlain hd)
        exact hletter ((List.cons.inj heq).1 ▸ hd)
      simp [exponentPart, hd]
  | case4 =>
    intro hcs
    obtain ⟨rfl, rfl⟩ := Prod.mk.inj hcs
    rw [h.nil]
    exact ⟨[], rfl, rfl⟩

theorem readNumber_follows (negative : Bool) (h : SameLines cs ds) :
    Follows (readNumber start negative cs) (readNumber start' negative ds) := by
  fun_cases readNumber start negative cs with
  | case1 => exact .fail
  | case2 => exact .error
  | case3 whole after hwhole fraction after' hfraction exponent? rest hexponent hinteger hdigits =>
    obtain ⟨_, hwhole', hsame⟩ := wholePart?_follows h hwhole
    obtain ⟨_, hfraction', hsame⟩ := fractionPart_follows hsame hfraction
    obtain ⟨_, hexponent', hsame⟩ := exponentPart_follows hsame hexponent
    simp only [readNumber, hwhole', hfraction', hexponent', hinteger, hdigits, if_true, if_false]
    exact .ok hsame
  | case4 whole after hwhole fraction after' hfraction exponent? rest hexponent hinteger =>
    obtain ⟨_, hwhole', hsame⟩ := wholePart?_follows h hwhole
    obtain ⟨_, hfraction', hsame⟩ := fractionPart_follows hsame hfraction
    obtain ⟨_, hexponent', hsame⟩ := exponentPart_follows hsame hexponent
    simp only [readNumber, hwhole', hfraction', hexponent', hinteger]
    exact .ok hsame

/-! ### Values -/

theorem readScalar_follows (h : SameLines cs ds) : Follows (readScalar cs) (readScalar ds) := by
  fun_cases readScalar cs with
  | case1 rest =>
    obtain ⟨ds, rfl, hrest⟩ := h.cons (by decide)
    exact (readText_follows hrest).map Value.str
  | case2 rest =>
    obtain ⟨ds, rfl, hrest⟩ := h.append ['n', 'u', 'l', 'l'] (by simp [IsPlain])
    exact .ok hrest
  | case3 rest =>
    obtain ⟨ds, rfl, hrest⟩ := h.append ['t', 'r', 'u', 'e'] (by simp [IsPlain])
    exact .ok hrest
  | case4 rest =>
    obtain ⟨ds, rfl, hrest⟩ := h.append ['f', 'a', 'l', 's', 'e'] (by simp [IsPlain])
    exact .ok hrest
  | case5 rest =>
    obtain ⟨ds, rfl, hrest⟩ := h.append ['N', 'a', 'N'] (by simp [IsPlain])
    exact .ok hrest
  | case6 rest =>
    obtain ⟨ds, rfl, hrest⟩ := h.append ['I', 'n', 'f', 'i', 'n', 'i', 't', 'y'] (by simp [IsPlain])
    exact .ok hrest
  | case7 rest =>
    obtain ⟨ds, rfl, hrest⟩ :=
      h.append ['-', 'I', 'n', 'f', 'i', 'n', 'i', 't', 'y'] (by simp [IsPlain])
    exact .ok hrest
  | case8 rest hword =>
    -- the other text might spell a word after the sign only if this one did
    obtain ⟨ds, rfl, hrest⟩ := h.cons (by decide)
    rw [readScalar]
    · exact readNumber_follows true hrest
    · rintro after rfl
      obtain ⟨after', rfl, -⟩ :=
        hrest.symm.append ['I', 'n', 'f', 'i', 'n', 'i', 't', 'y'] (by simp [IsPlain])
      exact hword after' rfl
  | case9 =>
    intro v rest hread
    obtain ⟨d, cs, rfl, hd⟩ := exists_digit_of_readNumber hread
    obtain ⟨ds, rfl, -⟩ := h.cons (isPlain_of_isDigit hd)
    rw [readScalar_digit hd]
    exact readNumber_follows false h v rest hread

theorem skipSpace_normalize (cs : List Char) :
    normalizeNewlines (skipSpace cs) = skipSpace (normalizeNewlines cs) := by
  fun_induction normalizeNewlines cs with
  | case1 => rfl
  | case2 cs ih => exact ih
  | case3 c cs hne ih =>
    by_cases hreturn : c = '\r'
    · subst hreturn
      exact ih
    · rw [if_neg hreturn]
      by_cases hc : isSpace c = true
      · simpa only [skipSpace, List.dropWhile_cons_of_pos hc] using ih
      · simp only [skipSpace, List.dropWhile_cons_of_neg hc]
        exact normalizeNewlines_cons hreturn

theorem skipSpace_sameLines (h : SameLines cs ds) : SameLines (skipSpace cs) (skipSpace ds) := by
  rw [SameLines, skipSpace_normalize, h, skipSpace_normalize]

/-- Nothing that follows blanks is a line end. -/
theorem isPlain_of_skipSpace (cs : List Char) (h : (skipSpace cs).head? = some c) : IsPlain c := by
  have hc := List.head?_dropWhile_not isSpace cs
  rw [skipSpace] at h
  rw [h] at hc
  exact .of_holds (p := (isSpace · = false)) (by simpa using hc) (by decide) (by decide)

section
variable {close : Char} {more more' : List Char → Result (List α)}
  {value value' : List Char → Result Value}

theorem readEnclosed_follows (hmore : ∀ cs ds, SameLines cs ds → Follows (more cs) (more' ds))
    (h : SameLines cs ds) :
    Follows (readEnclosed close more cs) (readEnclosed close more' ds) := by
  have hspace := skipSpace_sameLines h
  unfold readEnclosed
  cases hcs : skipSpace cs with
  | nil =>
    rw [hcs] at hspace
    rw [hspace.nil]
    exact hmore [] [] rfl
  | cons c rest =>
    rw [hcs] at hspace
    have hplain := isPlain_of_skipSpace cs (by rw [hcs]; rfl)
    obtain ⟨rest', hds, hrest⟩ := hspace.cons hplain
    rw [hds] at hspace ⊢
    simp only
    split
    · exact .ok hrest
    · exact hmore _ _ hspace

theorem readSequel_follows (hmore : ∀ cs ds, SameLines cs ds → Follows (more cs) (more' ds)) (a : α)
    (h : SameLines cs ds) :
    Follows (readSequel close more (a, cs)) (readSequel close more' (a, ds)) := by
  have hspace := skipSpace_sameLines h
  simp only [readSequel]
  cases hcs : skipSpace cs with
  | nil => exact .fail
  | cons c rest =>
    rw [hcs] at hspace
    have hplain := isPlain_of_skipSpace cs (by rw [hcs]; rfl)
    obtain ⟨rest', hds, hrest⟩ := hspace.cons hplain
    rw [hds]
    simp only
    split
    · exact .ok hrest
    split
    · exact (hmore _ _ (skipSpace_sameLines hrest)).map (a :: ·)
    · exact .fail

theorem readField_follows (hvalue : ∀ cs ds, SameLines cs ds → Follows (value cs) (value' ds))
    (h : SameLines cs ds) : Follows (readField value cs) (readField value' ds) := by
  fun_cases readField value cs with
  | case1 rest =>
    obtain ⟨ds, rfl, hrest⟩ := h.cons (by decide)
    refine (readText_follows hrest).bind fun name after after' hafter => ?_
    have hspace := skipSpace_sameLines hafter
    simp only
    generalize skipSpace after = cs at hspace ⊢
    split
    · obtain ⟨ds, hds, hvalues⟩ := hspace.cons (by decide)
      rw [hds]
      exact (hvalue _ _ (skipSpace_sameLines hvalues)).map (name, ·)
    · exact .fail
  | case2 => exact .fail

end

theorem readers_follow (fuel : Nat) :
    (∀ cs ds, SameLines cs ds → Follows (readValue fuel cs) (readValue fuel ds)) ∧
      (∀ cs ds, SameLines cs ds → Follows (readItems fuel cs) (readItems fuel ds)) ∧
      ∀ cs ds, SameLines cs ds → Follows (readFields fuel cs) (readFields fuel ds) := by
  -- on the fuel, for the three readers at once, as they call each other
  induction fuel with
  | zero => exact ⟨fun _ _ _ => .fail, fun _ _ _ => .fail, fun _ _ _ => .fail⟩
  | succ fuel ih =>
    obtain ⟨hvalue, hitems, hfields⟩ := ih
    refine ⟨fun cs ds h => ?_, fun cs ds h => ?_, fun cs ds h => ?_⟩
    · unfold readValue
      split
      · rename_i rest
        obtain ⟨ds, rfl, hrest⟩ := h.cons (by decide)
        exact (readEnclosed_follows hfields hrest).map fun fields =>
          Value.doc (Assoc.putAll fields [])
      · rename_i rest
        obtain ⟨ds, rfl, hrest⟩ := h.cons (by decide)
        exact (readEnclosed_follows hitems hrest).map Value.list
      · rename_i hbrace hbracket
        split
        · obtain ⟨cs, rfl, -⟩ := h.symm.cons (by decide)
          exact (hbrace cs rfl).elim
        · obtain ⟨cs, rfl, -⟩ := h.symm.cons (by decide)
          exact (hbracket cs rfl).elim
        · exact readScalar_follows h
    · exact (hvalue cs ds h).bind fun v _ _ hrest => readSequel_follows hitems v hrest
    · exact (readField_follows hvalue h).bind fun f _ _ hrest => readSequel_follows hfields f hrest

/-! ### Whole texts -/

theorem read_eq_ok_of_sameLines {v : Value} (h : SameLines cs ds) (hread : read cs = .ok v) :
    read ds = .ok v := by
  have hmark := h.head? (c := '\uFEFF') (by decide)
  have hspace := skipSpace_sameLines h
  -- The longer of the two texts gives enough fuel for both.
  let fuel := 2 * max cs.length ds.length + 1
  have enough (cs : List Char) (hcs : 2 * cs.length + 1 ≤ fuel) :
      readValue fuel (skipSpace cs) = readValue (2 * cs.length + 1) (skipSpace cs) := by
    have hshorter : 2 * (skipSpace cs).length + 1 ≤ 2 * cs.length + 1 := by
      have := (skipSpace_suffix cs).length_le
      omega
    rw [readValue_of_le hshorter, readValue_of_le (hshorter.trans hcs)]
  have hfollows := (readers_follow fuel).1 _ _ hspace
  rw [enough cs (by omega), enough ds (by omega)] at hfollows
  unfold read at hread ⊢
  split at hread
  · cases hread
  rename_i hnone
  rw [if_neg fun hsome => hnone (hmark.2 hsome)]
  split at hread
  · cases hread
  · rename_i w rest hvalue
    obtain ⟨rest', hvalue', hrest⟩ := hfollows w rest hvalue
    rw [hvalue']
    simp only
    split at hread
    · rename_i hend
      have hend' := skipSpace_sameLines hrest
      rw [List.isEmpty_iff.1 hend] at hend'
      rw [if_pos (List.isEmpty_iff.2 hend'.nil)]
      exact hread
    · cases hread

/-- Which value a text spells does not depend on how its lines end. -/
theorem read_normalizeNewlines {v : Value} : read (normalizeNewlines cs) = .ok v ↔ read cs = .ok v :=
  ⟨read_eq_ok_of_sameLines (.normalize cs), read_eq_ok_of_sameLines (SameLines.normalize cs).symm⟩

theorem HasLongNumber.of_normalize {count : Nat} (h : HasLongNumber (normalizeNewlines cs) count) :
    HasLongNumber cs count := by
  obtain ⟨hlong, digits, hinfix, hcount, hdigits⟩ := h
  exact ⟨hlong, digits,
    SameLines.infix_of_normalize (fun d hd => isPlain_of_isDigit (hdigits d hd)) hinfix, hcount, hdigits⟩

end Bringup.Json
